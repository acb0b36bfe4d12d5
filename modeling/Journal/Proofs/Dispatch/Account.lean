import Journal.Proofs.Dispatch.Stage

/-!
# No update is lost

A dispatch decides on a history that it has loaded before, and anybody may have written since. It
commits against the number at which that history ended, and all rests on what this number says:
since an aggregate's events are numbered without a gap, **a history that ends where the aggregate
ends is the aggregate's whole history** (`decided_of_executed`). A commit that is executed was
therefore decided on everything that came before it; one that is refused has left no trace, and the
next attempt starts from the history again.

A `Session` is a dispatch among others, with the calls it has made so far. What it owes is said
about these calls (`Caller.Accounts`), for each result that it may come to: all of them have left
the store as it was, but for the last one of a dispatch that has committed something.
-/

namespace Journal

namespace Dispatch

variable {c : Caller} {r : Request} {now : Instant}

/-! ## Sessions -/

structure Made where
  call : Call
  before : Store
  after : Store

/-- A dispatch at work: the store, what is left of its program, and the calls that it has made. They
are listed from the last one to the first, since what is said about a session is mostly about its
latest call. -/
structure Session where
  store : Store
  rest : Program storeCalls Result
  made : List Made

inductive Turn
  | own (now : Instant)
  | other (op : Store.Operation)

def Turn.isOwn : Turn → Bool
  | .own _ => true
  | .other _ => false

@[simp] theorem Turn.isOwn_own (now : Instant) : (Turn.own now).isOwn = true := rfl

@[simp] theorem Turn.isOwn_other (op : Store.Operation) : (Turn.other op).isOwn = false := rfl

namespace Session

def turn (s : Session) : Turn → Session
  | .own now =>
    match s.rest with
    | .done _ => s
    | .ask q _ =>
      let (rest, store) := Dispatch.turn now s.rest s.store
      ⟨store, rest, ⟨q, s.store, store⟩ :: s.made⟩
  | .other op => { s with store := (op.perform s.store).2 }

def play (s : Session) (turns : List Turn) : Session := turns.foldl turn s

@[simp] theorem play_nil (s : Session) : s.play [] = s := rfl

@[simp] theorem play_cons (s : Session) (t : Turn) (turns : List Turn) :
    s.play (t :: turns) = (s.turn t).play turns := rfl

def commits (s : Session) : Nat := s.made.countP (·.call.isCommit)

end Session

def Caller.begin (c : Caller) (r : Request) (store : Store) : Session := ⟨store, c.program r, []⟩

/-! ## What is owed -/

/-- Calls that have left the store as it was: nothing was written and nothing recorded. -/
def Quiet (made : List Made) : Prop := ∀ m ∈ made, m.after = m.before

/-- A call has committed what the caller decides on the whole history of the aggregate. The events
are the caller's, and carry the key of the request unless they carried another. -/
structure Decided (c : Caller) (r : Request) (m : Made) (events : List Event)
    (response : Response) : Prop where
  rule : ∃ drafts, c.rule (m.before.log.eventsOf r.aggregate) = .ok drafts ∧
    events.map (·.draft) = drafts.map (.underKey r.key.key)
  aggregate : ∀ e ∈ events, e.aggregate = r.aggregate
  seqs : events.map (·.seq) = List.range' ((m.before.log.eventsOf r.aggregate).length +
    1) events.length
  appended : m.after.log.toList = m.before.log.toList ++ events
  response : response = c.respond events

namespace Caller

/-- What a result says about the calls that were made. Only a commit of its own leaves a trace; a
replay, a refusal and a failure have written nothing. -/
def Accounts (c : Caller) (r : Request) (made : List Made) : Result → Prop
  | .ok (.committed [] response) => Quiet made ∧ response = c.respond []
  | .ok (.committed (e :: rest) response) =>
    ∃ last earlier, made = last :: earlier ∧ Quiet earlier ∧ Decided c r last (e :: rest) response
  | .ok (.replayed _) => Quiet made
  | .error (.failed _) => Quiet made
  | .error .crashed => False

theorem accounts_of_declined {made : List Made} {history : List Event} {result : Result}
    (h : c.declined? history = some result) (quiet : Quiet made) : c.Accounts r made result := by
  rcases declined_cases h with ⟨e, rfl⟩ | rfl
  · exact quiet
  · exact ⟨quiet, rfl⟩

end Caller

/-- A session has kept to its attempts and owes nothing. -/
structure Session.Accounted (s : Session) (c : Caller) (r : Request) : Prop where
  commits : s.commits ≤ max 1 c.backoff.attempts
  account : ∀ result, s.rest.result? = some result → c.Accounts r s.made result

/-! ## The commit that is executed -/

/-- **An executed commit was decided on the whole history.** The number that it names is the length
of the history it was decided on, and the number at which the aggregate is. -/
theorem decided_of_executed {s : Store} (ordered : s.log.Ordered) {history : List Event}
    {drafts : List Draft} {events : List Event} {response : Response} {q : Call}
    (begins : history <+: s.log.eventsOf r.aggregate) (rule : c.rule history = .ok drafts)
    (executed : s.Executed (c.command r history drafts) now events response) :
    Decided c r ⟨q, s, (s.commit (c.command r history drafts) now).2⟩ events response := by
  have hcurrent : (c.command r history drafts).expected = s.log.latest r.aggregate :=
    executed.admits.current
  have hwhole : history = s.log.eventsOf r.aggregate := by
    refine begins.eq_of_length ?_
    calc history.length
      _ = (c.command r history drafts).expected := (ordered.last_of_prefix begins).symm
      _ = s.log.latest r.aggregate := hcurrent
      _ = (s.log.eventsOf r.aggregate).length := (ordered.length_eventsOf _).symm
  have hevents : events = Log.number r.aggregate (s.log.head + 1) (s.log.latest r.aggregate + 1)
      (drafts.map (.underKey r.key.key)) := executed.written
  refine ⟨⟨drafts, hwhole ▸ rule, ?_⟩, fun e he => ?_, ?_, ?_, ?_⟩
  · rw [hevents, Log.map_draft_number]
  · rw [hevents] at he
    exact Log.aggregate_of_mem_number he
  · rw [hevents, Log.map_seq_number, Log.length_number, ordered.length_eventsOf]
  · dsimp only
    rw [executed.log, executed.written]
    exact Log.toList_extend _ _ _
  · exact (Except.ok.inj executed.responds).symm

theorem ne_nil_of_executed {s : Store} {command : Command} {events : List Event}
    {response : Response} (executed : s.Executed command now events response) : events ≠ [] := by
  intro hnil
  have hlen : events.length = command.drafts.length := by
    rw [executed.written]
    exact Log.length_number _ _ _ _
  have hdrafts : command.drafts = [] := by
    rw [hnil] at hlen
    exact List.eq_nil_of_length_eq_zero hlen.symm
  have hcheck := executed.admits.wellFormed
  rw [hdrafts] at hcheck
  cases hcheck

/-! ## Stages of a session -/

theorem Quiet.cons {made : List Made} (h : Quiet made) (q : Call) (s : Store) :
    Quiet (⟨q, s, s⟩ :: made) := by
  intro m hm
  rcases List.mem_cons.mp hm with rfl | hm
  · rfl
  · exact h m hm

namespace Caller

def commitsLeft (c : Caller) : Stage → Nat
  | .lookup => max 1 c.backoff.attempts
  | .load left _ => left + 1
  | .commit left _ _ _ => left + 1
  | .ended _ => 0

/-- What a session is up to at a stage: until there is a result nothing has been written, and a
history that was loaded is still the beginning of what there is. -/
def Standing (c : Caller) (r : Request) (s : Session) : Stage → Prop
  | .lookup => Quiet s.made
  | .load _ _ => Quiet s.made
  | .commit _ _ history drafts =>
    Quiet s.made ∧ c.rule history = .ok drafts ∧ history <+: s.store.log.eventsOf r.aggregate
  | .ended result => c.Accounts r s.made result

end Caller

structure Session.At (s : Session) (c : Caller) (r : Request) (stage : Stage) : Prop where
  rest : s.rest = c.rest r stage
  ordered : s.store.log.Ordered
  commits : s.commits + c.commitsLeft stage ≤ max 1 c.backoff.attempts
  standing : c.Standing r s stage

namespace Session

variable {s : Session} {stage : Stage}

theorem turn_own {q : Call} (hrest : s.rest = c.rest r stage) (hcall : c.call r stage = some q)
    (now : Instant) :
    s.turn (.own now) = ⟨(c.next r now stage s.store).2, c.rest r (c.next r now stage s.store).1,
      ⟨q, s.store, (c.next r now stage s.store).2⟩ :: s.made⟩ := by
  obtain ⟨go, hgo⟩ := Program.eq_ask_of_asks ((c.asks_rest r stage).trans hcall)
  have hturn := c.turn_rest r now stage s.store
  rw [hgo] at hturn
  simp only [turn, hrest, hgo, hturn]

theorem commits_cons (store : Store) (rest : Program storeCalls Result) (m : Made)
    (made : List Made) :
    commits ⟨store, rest, m :: made⟩ =
      made.countP (·.call.isCommit) + if m.call.isCommit then 1 else 0 := by
  rw [commits, List.countP_cons]

/-- **Another's operation leaves a session at its stage.** -/
theorem At.other (h : s.At c r stage) (op : Store.Operation) :
    (s.turn (.other op)).At c r stage where
  rest := h.rest
  ordered := Store.ordered_after h.ordered [op]
  commits := h.commits
  standing := by
    have hstanding := h.standing
    cases stage with
    | lookup => exact hstanding
    | load left number => exact hstanding
    | commit left number history drafts =>
      obtain ⟨hquiet, hrule, hbegins⟩ := hstanding
      exact ⟨hquiet, hrule, hbegins.trans ((Store.prefix_after s.store [op]).filter _)⟩
    | ended result => exact hstanding

theorem At.own_of_next (h : s.At c r stage) {q : Call} (hcall : c.call r stage = some q)
    {later : Stage} {store : Store} (hnext : c.next r now stage s.store = (later, store))
    (commits : (if q.isCommit then 1 else 0) + c.commitsLeft later ≤ c.commitsLeft stage)
    (standing : c.Standing r ⟨store, c.rest r later, ⟨q, s.store, store⟩ :: s.made⟩ later) :
    (s.turn (.own now)).At c r later := by
  have hordered : store.log.Ordered := by
    obtain ⟨op, _, hop⟩ := c.next_store r now stage s.store
    have hstore : store = (op.perform s.store).2 := (congrArg Prod.snd hnext).symm.trans hop
    rw [hstore]
    exact Store.ordered_after h.ordered [op]
  rw [turn_own h.rest hcall, hnext]
  refine ⟨rfl, hordered, ?_, standing⟩
  have hcommits := h.commits
  rw [commits_cons]
  unfold Session.commits at hcommits
  lia

theorem At.own_lookup (h : s.At c r .lookup) (now : Instant) :
    ∃ later, (s.turn (.own now)).At c r later := by
  have hquiet : Quiet s.made := h.standing
  rcases c.next_lookup_cases r now s.store with ⟨e, hnext⟩ | ⟨_, response, _, _, hnext⟩ | ⟨_, hnext⟩
  · exact ⟨_, h.own_of_next rfl hnext (Nat.zero_le _) (hquiet.cons _ _)⟩
  · exact ⟨_, h.own_of_next rfl hnext (Nat.zero_le _) (hquiet.cons _ _)⟩
  · refine ⟨_, h.own_of_next rfl hnext ?_ (hquiet.cons _ _)⟩
    simp only [Caller.commitsLeft, Call.isCommit]
    lia

theorem At.own_load {left number : Nat} (h : s.At c r (.load left number)) (now : Instant) :
    ∃ later, (s.turn (.own now)).At c r later := by
  have hquiet : Quiet s.made := h.standing
  rcases c.next_load_cases r now left number s.store with ⟨e, _, hnext⟩ | ⟨history, hhistory, hnext⟩
  · exact ⟨_, h.own_of_next rfl hnext (Nat.zero_le _) (hquiet.cons _ _)⟩
  · rcases c.decided_cases left number history with
      ⟨result, hdeclined, hdecided⟩ | ⟨_, d, ds, hrule, hdecided⟩
    · rw [hdecided] at hnext
      exact ⟨_, h.own_of_next rfl hnext (Nat.zero_le _)
        (Caller.accounts_of_declined hdeclined (hquiet.cons _ _))⟩
    · rw [hdecided] at hnext
      refine ⟨_, h.own_of_next rfl hnext ?_ ⟨hquiet.cons _ _, hrule, ?_⟩⟩
      · simp [Caller.commitsLeft, Call.isCommit]
      · have hwhole : history = s.store.log.eventsOf r.aggregate :=
          Store.eventsOf_of_history h.ordered hhistory
        exact hwhole ▸ List.prefix_refl _

theorem At.own_commit {left number : Nat} {history : List Event} {drafts : List Draft}
    (h : s.At c r (.commit left number history drafts)) (now : Instant) :
    ∃ later, (s.turn (.own now)).At c r later := by
  obtain ⟨hquiet, hrule, hbegins⟩ := h.standing
  -- A commit that leads to a result takes the last of what the stage has left, if not more.
  have hlast : ∀ command, (if (Call.commit command).isCommit then 1 else 0) + 0 ≤ left + 1 := by
    simp [Call.isCommit]
  rcases c.next_commit_cases r now left number history drafts s.store with
    ⟨e, _, hnext⟩ | ⟨response, hnext⟩ | ⟨events, response, hexecuted, hnext⟩
  · rcases Caller.committed_failed_cases left number e with hfailed | ⟨_, fewer, rfl, hagain⟩
    · rw [hfailed] at hnext
      exact ⟨_, h.own_of_next rfl hnext (hlast _) (hquiet.cons _ _)⟩
    · rw [hagain] at hnext
      refine ⟨_, h.own_of_next rfl hnext ?_ (hquiet.cons _ _)⟩
      simp only [Caller.commitsLeft, Call.isCommit]
      lia
  · exact ⟨_, h.own_of_next rfl hnext (hlast _) (hquiet.cons _ _)⟩
  · have hdecided := decided_of_executed (q := .commit (c.command r history drafts)) h.ordered
      hbegins hrule hexecuted
    refine ⟨_, h.own_of_next rfl hnext (hlast _) ?_⟩
    obtain ⟨e, rest, rfl⟩ := List.exists_cons_of_ne_nil (ne_nil_of_executed hexecuted)
    exact ⟨_, _, rfl, hquiet, hdecided⟩

/-- **A session's own call leads it to its next stage.** -/
theorem At.own (h : s.At c r stage) (now : Instant) :
    ∃ later, (s.turn (.own now)).At c r later := by
  cases stage with
  | lookup => exact h.own_lookup now
  | load left number => exact h.own_load now
  | commit left number history drafts => exact h.own_commit now
  | ended result =>
    refine ⟨.ended result, ?_⟩
    have hrest : s.rest = .done result := h.rest
    simpa only [turn, hrest] using h

theorem At.play (h : s.At c r stage) (turns : List Turn) :
    ∃ later, (s.play turns).At c r later := by
  induction turns generalizing s stage with
  | nil => exact ⟨stage, h⟩
  | cons t turns ih =>
    cases t with
    | own now =>
      obtain ⟨later, hlater⟩ := h.own now
      exact ih hlater
    | other op => exact ih (h.other op)

theorem At.accounted (h : s.At c r stage) : s.Accounted c r where
  commits := Nat.le_trans (Nat.le_add_right _ _) h.commits
  account result hresult := by
    have hstanding := h.standing
    rw [h.rest] at hresult
    rw [c.eq_ended_of_result r hresult] at hstanding
    exact hstanding

end Session

/-- **No update is lost.** Whatever is done to the store between the calls of a dispatch, and
whatever was done before: what it has committed is what the caller decides on the history up to
there, and nothing else is written. -/
theorem accounted_of_play (c : Caller) (r : Request) (policy : Policy)
    (before : List Store.Operation) (turns : List Turn) :
    ((c.begin r ((Store.empty policy).after before)).play turns).Accounted c r := by
  have hbegin : (c.begin r ((Store.empty policy).after before)).At c r .lookup :=
    ⟨rfl, Store.ordered_after Log.ordered_empty
      before, by simp [Session.commits, Caller.begin, Caller.commitsLeft],
      fun m hm => absurd hm (by simp [Caller.begin])⟩
  obtain ⟨stage, hstage⟩ := hbegin.play turns
  exact hstage.accounted

/-- Somebody else posts between the teller's look at the account and the teller's own posting. -/
def rush : List Turn :=
  [.own Sample.noon, .own Sample.noon, .other (.append Sample.account 0 [Sample.posting]),
    .own Sample.noon, .own Sample.noon, .own Sample.noon]

/-- The teller's first posting comes too late, and the second one counts. -/
theorem accounted_rush :
    ((Sample.teller.begin Sample.request (Store.empty .standard)).play rush).rest.result? =
        some (.ok (.committed [.ofDraft 2 Sample.account 2 (Sample.posting.underKey "k1")]
          ⟨200, some (.list [.int 2])⟩)) ∧
      ((Sample.teller.begin Sample.request (Store.empty .standard)).play rush).Accounted
        Sample.teller Sample.request :=
  ⟨by decide +kernel, accounted_of_play Sample.teller Sample.request .standard [] rush⟩

/-! ## The end -/

namespace Caller

def callsLeft (c : Caller) : Stage → Nat
  | .lookup => 2 * max 1 c.backoff.attempts + 1
  | .load left _ => 2 * left + 2
  | .commit left _ _ _ => 2 * left + 1
  | .ended _ => 0

theorem callsLeft_next (c : Caller) (r : Request) (now : Instant) {stage : Stage} {q : Call}
    (hcall : c.call r stage = some q) (s : Store) :
    c.callsLeft (c.next r now stage s).1 < c.callsLeft stage := by
  cases stage with
  | lookup =>
    rcases c.next_lookup_cases r now s with ⟨e, hnext⟩ | ⟨_, response, _, _, hnext⟩ | ⟨_, hnext⟩
    · simp [hnext, callsLeft, storeFailed]
    · simp [hnext, callsLeft]
    · simp only [hnext, callsLeft]
      lia
  | load left number =>
    rcases c.next_load_cases r now left number s with ⟨e, _, hnext⟩ | ⟨history, _, hnext⟩
    · simp [hnext, callsLeft, storeFailed]
    · rcases c.decided_cases left number history with
        ⟨result, _, hdecided⟩ | ⟨_, d, ds, _, hdecided⟩
      · simp [hnext, hdecided, callsLeft]
      · simp [hnext, hdecided, callsLeft]
  | commit left number history drafts =>
    rcases c.next_commit_cases r now left number history drafts s with
      ⟨e, _, hnext⟩ | ⟨response, hnext⟩ | ⟨events, response, _, hnext⟩
    · rcases committed_failed_cases left number e with hfailed | ⟨_, fewer, rfl, hagain⟩
      · simp [hnext, hfailed, callsLeft, storeFailed]
      · simp only [hnext, hagain, callsLeft]
        lia
    · simp [hnext, callsLeft]
    · simp [hnext, callsLeft]
  | ended result => cases hcall

end Caller

theorem Session.done_of_turns (stage : Stage) {s : Session} (hrest : s.rest = c.rest r stage)
    (turns : List Turn) (enough : c.callsLeft stage ≤ turns.countP (·.isOwn)) :
    ∃ result, (s.play turns).rest.result? = some result := by
  induction turns generalizing s stage with
  | nil =>
    cases stage with
    | ended result =>
      refine ⟨result, ?_⟩
      rw [play_nil, hrest]
      rfl
    | lookup | load | commit => simp [Caller.callsLeft] at enough
  | cons t turns ih =>
    rw [play_cons]
    cases t with
    | other op =>
      refine ih stage hrest ?_
      simpa using enough
    | own now =>
      rw [List.countP_cons_of_pos (Turn.isOwn_own now)] at enough
      cases hcall : c.call r stage with
      | none =>
        obtain ⟨result, rfl⟩ := c.eq_ended_of_call r hcall
        have hdone : s.rest = .done result := hrest
        refine ih (.ended result) ?_ (Nat.zero_le _)
        simp only [turn, hdone]
        rfl
      | some q =>
        have hless := c.callsLeft_next r now hcall s.store
        rw [turn_own hrest hcall]
        exact ih _ rfl (by lia)

/-- A dispatch comes to its result after as many calls as its attempts need, whatever is done in
between. Others can make it start again, but only as often as it may attempt the commit. -/
theorem done_of_play (c : Caller) (r : Request) (store : Store) {turns : List Turn}
    (enough : 2 * max 1 c.backoff.attempts + 1 ≤ turns.countP (·.isOwn)) :
    ∃ result, ((c.begin r store).play turns).rest.result? = some result :=
  Session.done_of_turns .lookup rfl turns enough

end Dispatch

end Journal
