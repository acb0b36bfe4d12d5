import Journal.Proofs.Dispatch.Stage
import Mathlib.Logic.Function.Basic

/-!
# Dispatches of the same request

A client that has lost its connection sends its request again, and then the two dispatches race. One
of them commits; the other one should be given the response of the first, because a stored answer
wins over deciding again.

**It is given the response wherever it meets the record, and there is one place where it does not
look** (`repeats_iff`). The key is looked up once, before the first attempt, and again by every
commit, but not when the history is loaded. A dispatch that loads the history after the other one
has committed decides on the other one's events, and if there is nothing to commit any more it says
so: a request that was executed is answered as if it had been refused.

A `Race` is any number of such dispatches over one store. Its programs go from stage to stage
(`race_play`), and so what is said about a race is proved of a `Course`, which has the stages in
their place.
-/

namespace Journal

namespace Dispatch

variable {ι : Type} [DecidableEq ι] {c : Caller} {callers : ι → Caller} {r : Request}
  {now : Instant} {events : List Event} {response : Response}

/-! ## Races -/

structure Race (ι : Type) where
  store : Store
  racers : ι → Program storeCalls Result

inductive Move (ι : Type)
  | call (i : ι) (now : Instant)
  | other (op : Store.Operation)

def Move.SparesRecords : Move ι → Prop
  | .call _ _ => True
  | .other op => op.SparesRecords

namespace Race

def move (m : Race ι) : Move ι → Race ι
  | .call i now =>
    let (rest, store) := turn now (m.racers i) m.store
    ⟨store, Function.update m.racers i rest⟩
  | .other op => { m with store := (op.perform m.store).2 }

def play (m : Race ι) (moves : List (Move ι)) : Race ι := moves.foldl move m

def result? (m : Race ι) (i : ι) : Option Result := (m.racers i).result?

/-- A dispatch is about to look at its events of an earlier time, and will find nothing to commit
any more. This is the one gap in the guard: the key was looked up before the race and is not looked
up again before the rule is asked. -/
structure DecidesAgain (m : Race ι) (c : Caller) (r : Request) (i : ι) (events : List Event)
    (result : Result) : Prop where
  loads : (m.racers i).asks? = some (.history r.aggregate)
  declines : ∃ history, m.store.history r.aggregate = .ok history ∧ events ⊆ history ∧
    c.declined? history = some result

end Race

def start (callers : ι → Caller) (r : Request) (store : Store) : Race ι :=
  ⟨store, fun i => (callers i).program r⟩

/-- The answers to a repetition: the response of the first time, or that the store failed. -/
def Repeats (response : Response) : Result → Prop
  | .ok (.replayed again) => again = response
  | .error (.failed (.store _)) => True
  | _ => False

theorem not_repeats_of_declined {history : List Event} {result : Result}
    (h : c.declined? history = some result) :
    ¬ Repeats response result := by
  rcases Caller.declined_cases h with ⟨e, rfl⟩ | rfl
  · exact id
  · exact id

/-! ## The stages of a race -/

structure Course (ι : Type) where
  store : Store
  stages : ι → Stage

namespace Course

def race (callers : ι → Caller) (r : Request) (f : Course ι) : Race ι :=
  ⟨f.store, fun i => (callers i).rest r (f.stages i)⟩

def move (callers : ι → Caller) (r : Request) (f : Course ι) : Move ι → Course ι
  | .call i now =>
    let (stage, store) := (callers i).next r now (f.stages i) f.store
    ⟨store, Function.update f.stages i stage⟩
  | .other op => { f with store := (op.perform f.store).2 }

def play (callers : ι → Caller) (r : Request) (f : Course ι) (moves : List (Move ι)) : Course ι :=
  moves.foldl (move callers r) f

@[simp] theorem play_cons (callers : ι → Caller) (r : Request) (f : Course ι) (m : Move ι)
    (moves : List (Move ι)) :
    f.play callers r (m :: moves) = (f.move callers r m).play callers r moves := rfl

theorem race_move (callers : ι → Caller) (r : Request) (f : Course ι) (m : Move ι) :
    (f.race callers r).move m = (f.move callers r m).race callers r := by
  cases m with
  | other op => rfl
  | call i now =>
    have hturn := (callers i).turn_rest r now (f.stages i) f.store
    simp only [Race.move, race, move, hturn]
    congr 1
    funext k
    by_cases hk : k = i
    · subst hk
      simp
    · simp [hk]

theorem race_play (callers : ι → Caller) (r : Request) (f : Course ι) (moves : List (Move ι)) :
    (f.race callers r).play moves = (f.play callers r moves).race callers r := by
  induction moves generalizing f with
  | nil => rfl
  | cons m moves ih =>
    rw [play_cons, Race.play, List.foldl_cons, race_move]
    exact ih _

end Course

/-! ## A request that was executed -/

/-- The request was executed: its response is on record, and its events are in the log. -/
structure Answered (s : Store) (r : Request) (events : List Event)
    (response : Response) : Prop where
  recorded : ∃ first, s.guard.lookup r.key = some ⟨r.key, r.hash, some response, first⟩
  written : events ⊆ s.log.eventsOf r.aggregate

theorem Answered.perform {s : Store} (h : Answered s r events response) {op : Store.Operation}
    (spares : op.SparesRecords) :
    Answered (op.perform s).2 r events response := by
  obtain ⟨first, hrecorded⟩ := h.recorded
  refine ⟨⟨first, Store.lookup_perform_of_spares hrecorded rfl spares⟩,
    List.Subset.trans h.written ?_⟩
  exact ((Store.prefix_after s [op]).filter _).subset

theorem answered_of_executed {s : Store} {history : List Event} {drafts : List Draft}
    (executed : s.Executed (c.command r history drafts) now events response) :
    Answered (s.commit (c.command r history drafts) now).2 r events response := by
  refine ⟨⟨now, executed.recorded⟩, ?_⟩
  have hevents :=
    Log.eventsOf_extend s.log r.aggregate r.aggregate (c.command r history drafts).drafts
  rw [if_pos rfl] at hevents
  rw [executed.log, executed.written]
  refine List.Subset.trans ?_ (hevents ▸ List.subset_append_right _ _)
  exact List.Subset.refl _

theorem answered_of_next {stage : Stage} {s later : Store} (nonempty : events ≠ [])
    (fresh : stage ≠ .ended (.ok (.committed events response)))
    (hnext : c.next r now stage s = (.ended (.ok (.committed events response)), later)) :
    Answered later r events response := by
  cases stage with
  | lookup =>
    rcases c.next_lookup_cases r now s with ⟨e, h⟩ | ⟨_, _, _, _, h⟩ | ⟨_, h⟩
    · cases h.symm.trans hnext
    · cases h.symm.trans hnext
    · cases h.symm.trans hnext
  | load left number =>
    rcases c.next_load_cases r now left number s with ⟨e, _, h⟩ | ⟨history, _, h⟩
    · cases h.symm.trans hnext
    · rcases c.decided_cases left number history with
        ⟨result, hdeclined, hdecided⟩ | ⟨_, d, ds, _, hdecided⟩
      · rw [hdecided] at h
        cases h.symm.trans hnext
        rcases Caller.declined_cases hdeclined with ⟨e, hresult⟩ | hresult
        · cases hresult
        · cases hresult
          exact absurd rfl nonempty
      · rw [hdecided] at h
        cases h.symm.trans hnext
  | commit left number history drafts =>
    rcases c.next_commit_cases r now left number history drafts s with
      ⟨e, _, h⟩ | ⟨_, h⟩ | ⟨_, _, hexecuted, h⟩
    · rcases Caller.committed_failed_cases left number e with hfailed | ⟨_, _, _, hagain⟩
      · rw [hfailed] at h
        cases h.symm.trans hnext
      · rw [hagain] at h
        cases h.symm.trans hnext
    · cases h.symm.trans hnext
    · cases h.symm.trans hnext
      exact answered_of_executed hexecuted
  | ended result =>
    cases hnext
    exact absurd rfl fresh

/-! ## A dispatch that meets the record -/

/-- A stage from which the record is not missed any more. -/
def Caught (response : Response) : Stage → Prop
  | .commit _ _ _ _ => True
  | .ended result => Repeats response result
  | _ => False

/-- **A commit meets the record**, and conflicts are not looked for before. -/
theorem caught_of_commit {s : Store} (h : Answered s r events response) (c : Caller) (now : Instant)
    (left number : Nat) (history : List Event) (drafts : List Draft) :
    Caught response (c.next r now (.commit left number history drafts) s).1 := by
  obtain ⟨first, hrecorded⟩ := h.recorded
  rw [Caller.next]
  rcases Store.commit_of_answered (c := c.command r history drafts) hrecorded rfl rfl now with
    hc | ⟨e, he, hc⟩
  · rw [hc]
    rfl
  · rw [hc]
    rcases Caller.committed_failed_cases left number e with hfailed | ⟨hconflict, _⟩
    · rw [hfailed]
      trivial
    · rw [he] at hconflict
      cases hconflict

theorem caught_next {s : Store} (h : Answered s r events response) {stage : Stage}
    (caught : Caught response stage) :
    Caught response (c.next r now stage s).1 := by
  cases stage with
  | lookup | load => exact absurd caught id
  | commit left number history drafts => exact caught_of_commit h c now left number history drafts
  | ended result => exact caught

/-- **The next call after the execution decides it**: it catches the dispatch, or it is a history
with nothing to commit any more. -/
theorem caught_or_declined {s : Store} (h : Answered s r events response) (ordered : s.log.Ordered)
    {stage : Stage} (waiting : ∀ result, stage ≠ .ended result) (c : Caller) (now : Instant) :
    Caught response (c.next r now stage s).1 ∨
      ∃ history result, c.call r stage = some (.history r.aggregate) ∧
        s.history r.aggregate = .ok history ∧ events ⊆ history ∧
        c.declined? history = some result ∧ (c.next r now stage s).1 = .ended result := by
  cases stage with
  | lookup =>
    obtain ⟨first, hrecorded⟩ := h.recorded
    rcases c.next_lookup_cases r now s with
      ⟨e, hnext⟩ | ⟨record, again, hfound, hagain, hnext⟩ | ⟨hnone, _⟩
    · rw [hnext]
      exact Or.inl trivial
    · rw [hrecorded] at hfound
      cases hfound
      rw [Store.resolve_of_answered rfl, if_pos rfl] at hagain
      cases hagain
      rw [hnext]
      exact Or.inl rfl
    · rw [hrecorded] at hnone
      cases hnone
  | load left number =>
    rcases c.next_load_cases r now left number s with ⟨e, _, hnext⟩ | ⟨history, hhistory, hnext⟩
    · rw [hnext]
      exact Or.inl trivial
    · rcases c.decided_cases left number history with
        ⟨result, hdeclined, hdecided⟩ | ⟨_, d, ds, _, hdecided⟩
      · rw [hnext, hdecided]
        have hsees : events ⊆ history := Store.eventsOf_of_history ordered hhistory ▸ h.written
        exact Or.inr ⟨history, result, rfl, hhistory, hsees, hdeclined, rfl⟩
      · rw [hnext, hdecided]
        exact Or.inl trivial
  | commit left number history drafts =>
    exact Or.inl (caught_of_commit h c now left number history drafts)
  | ended result => exact absurd rfl (waiting result)

/-! ## Runs -/

namespace Course

variable {f : Course ι}

structure Sound (f : Course ι) (r : Request) : Prop where
  ordered : f.store.log.Ordered
  answered : ∀ i events response, f.stages i = .ended (.ok (.committed events response)) →
    events ≠ [] → Answered f.store r events response

theorem move_store (callers : ι → Caller) (r : Request) (f : Course ι) {m : Move ι}
    (spares : m.SparesRecords) :
    ∃ op : Store.Operation,
      op.SparesRecords ∧ (f.move callers r m).store = (op.perform f.store).2 := by
  cases m with
  | call i now => exact (callers i).next_store r now (f.stages i) f.store
  | other op => exact ⟨op, spares, rfl⟩

theorem move_stages_of_ne (callers : ι → Caller) (r : Request) (f : Course ι) {i j : ι} (h : j ≠ i)
    (now : Instant) :
    (f.move callers r (.call i now)).stages j = f.stages j := Function.update_of_ne h _ _

theorem move_stages_self (callers : ι → Caller) (r : Request) (f : Course ι) (i : ι)
    (now : Instant) :
    (f.move callers r (.call i now)).stages i = ((callers i).next r now (f.stages i) f.store).1 :=
  Function.update_self _ _ _

theorem Sound.move (h : f.Sound r) (callers : ι → Caller) {m : Move ι} (spares : m.SparesRecords) :
    (f.move callers r m).Sound r := by
  obtain ⟨op, hspares, hstore⟩ := move_store callers r f spares
  refine ⟨?_, fun i events response hi nonempty => ?_⟩
  · rw [hstore]
    exact Store.ordered_after h.ordered [op]
  · by_cases hold : f.stages i = .ended (.ok (.committed events response))
    · rw [hstore]
      exact (h.answered i events response hold nonempty).perform hspares
    · cases m with
      | other op => exact absurd hi hold
      | call k now =>
        by_cases hk : i = k
        · subst hk
          rw [move_stages_self] at hi
          exact answered_of_next nonempty hold (Prod.ext hi rfl)
        · rw [move_stages_of_ne callers r f hk] at hi
          exact absurd hi hold

theorem Sound.play (h : f.Sound r) (callers : ι → Caller) {moves : List (Move ι)}
    (spares : ∀ m ∈ moves, m.SparesRecords) :
    (f.play callers r moves).Sound r := by
  induction moves generalizing f with
  | nil => exact h
  | cons m moves ih =>
    exact ih (h.move callers (spares m List.mem_cons_self)) fun k hk =>
      spares k (List.mem_cons_of_mem _ hk)

theorem answered_move (h : Answered f.store r events response) (callers : ι → Caller) {m : Move ι}
    (spares : m.SparesRecords) : Answered (f.move callers r m).store r events response := by
  obtain ⟨op, hspares, hstore⟩ := move_store callers r f spares
  rw [hstore]
  exact h.perform hspares

theorem caught_play {i : ι} (h : Answered f.store r events response)
    (caught : Caught response (f.stages i)) (callers : ι → Caller) {moves : List (Move ι)}
    (spares : ∀ m ∈ moves, m.SparesRecords) :
    Caught response ((f.play callers r moves).stages i) := by
  induction moves generalizing f with
  | nil => exact caught
  | cons m moves ih =>
    refine ih (answered_move h callers (spares m List.mem_cons_self)) ?_ fun k hk =>
      spares k (List.mem_cons_of_mem _ hk)
    cases m with
    | other op => exact caught
    | call k now =>
      by_cases hk : i = k
      · subst hk
        rw [move_stages_self]
        exact caught_next h caught
      · rw [move_stages_of_ne callers r f hk]
        exact caught

theorem ended_play {i : ι} {result : Result} (hended : f.stages i = .ended result)
    (callers : ι → Caller) (r : Request) (moves : List (Move ι)) :
    (f.play callers r moves).stages i = .ended result := by
  induction moves generalizing f with
  | nil => exact hended
  | cons m moves ih =>
    refine ih ?_
    cases m with
    | other op => exact hended
    | call k now =>
      by_cases hk : i = k
      · subst hk
        rw [move_stages_self, hended]
        rfl
      · rw [move_stages_of_ne callers r f hk]
        exact hended

end Course

/-- The race has begun on a store to which anything may have happened, and no records have been
removed since. -/
def Race.Reached (m : Race ι) (callers : ι → Caller) (r : Request) : Prop :=
  ∃ policy before moves, (∀ mv ∈ moves, mv.SparesRecords) ∧
    m = (start callers r ((Store.empty policy).after before)).play moves

theorem Race.Reached.field {m : Race ι} (h : m.Reached callers r) : ∃ f :
    Course ι, f.Sound r ∧ m = f.race callers r := by
  obtain ⟨policy, before, moves, spares, rfl⟩ := h
  let first : Course ι := ⟨(Store.empty policy).after before, fun _ => .lookup⟩
  have hfirst : first.Sound r := ⟨Store.ordered_after Log.ordered_empty before,
    fun _ _ _ h => absurd h (by simp [first])⟩
  exact ⟨first.play callers r moves, hfirst.play callers spares,
    Course.race_play callers r first moves⟩

/-- **When the stored answer wins.** A dispatch has committed something, and another one of the same
request is still at work: that one gets the stored response, or a failure of the store, unless the
very next thing that it does is to load a history, which has the committed events, and to find
nothing to commit on it. -/
theorem repeats_iff {m : Race ι} (reached : m.Reached callers r) {i j : ι} {result : Result}
    {moves : List (Move ι)} (committed : m.result? i = some (.ok (.committed events response)))
    (nonempty : events ≠ []) (waiting : m.result? j = none)
    (spares : ∀ mv ∈ moves, mv.SparesRecords)
    (answered : (m.play (.call j now :: moves)).result? j = some result) :
    Repeats response result ↔ ¬ m.DecidesAgain (callers j) r j events result := by
  obtain ⟨f, hsound, rfl⟩ := reached.field
  have hexecuted : Answered f.store r events response :=
    hsound.answered i events response ((callers i).eq_ended_of_result r committed) nonempty
  have hwaiting : ∀ result, f.stages j ≠ .ended result := by
    intro result hended
    have hnone : ((callers j).rest r (f.stages j)).result? = none := waiting
    rw [hended] at hnone
    cases hnone
  rw [Course.race_play] at answered
  have hresult := (callers j).eq_ended_of_result r answered
  have hafter := Course.answered_move hexecuted callers (m := .call j now) trivial
  rcases caught_or_declined hexecuted hsound.ordered hwaiting (callers j) now with
    hcaught | ⟨history, declined, hcall, hhistory, hsees, hdeclined, hended⟩
  · rw [← Course.move_stages_self callers r f j now] at hcaught
    have hrepeats := Course.caught_play hafter hcaught callers spares
    rw [← Course.play_cons, hresult] at hrepeats
    refine iff_of_true hrepeats fun hagain => ?_
    obtain ⟨history, _, _, hdeclined⟩ := hagain.declines
    exact not_repeats_of_declined hdeclined hrepeats
  · rw [← Course.move_stages_self callers r f j now] at hended
    have hend := Course.ended_play hended callers r moves
    cases hend.symm.trans hresult
    refine iff_of_false (not_repeats_of_declined hdeclined)
      (not_not_intro ⟨?_, history, hhistory, hsees, hdeclined⟩)
    exact ((callers j).asks_rest r (f.stages j)).trans hcall

def tellers (moves : List (Move Bool)) : Race Bool :=
  (start (fun _ => Sample.teller) Sample.request (Store.empty .standard)).play moves

/-- Both tellers look up the key and load the history, and then the second one commits. -/
def neckAndNeck : List (Move Bool) :=
  [.call false Sample.noon, .call true Sample.noon, .call false Sample.noon, .call true Sample.noon,
    .call true Sample.noon]

/-- The first teller meets the record with its commit. -/
theorem repeats_neckAndNeck :
    (tellers neckAndNeck).result? true =
        some (.ok (.committed [.ofDraft 1 Sample.account 1 (Sample.posting.underKey "k1")]
          ⟨200, some (.list [.int 1])⟩)) ∧
      (tellers neckAndNeck).result? false = none ∧
      ((tellers neckAndNeck).play [.call false Sample.noon]).result? false =
        some (.ok (.replayed ⟨200, some (.list [.int 1])⟩)) ∧
      ¬ (tellers neckAndNeck).DecidesAgain Sample.teller Sample.request false
        [.ofDraft 1 Sample.account 1 (Sample.posting.underKey "k1")]
        (.ok (.replayed ⟨200, some (.list [.int 1])⟩)) := by
  have hreached : (tellers neckAndNeck).Reached (fun _ => Sample.teller) Sample.request := by
    refine ⟨.standard, [], neckAndNeck, fun m hm => ?_, rfl⟩
    simp only [neckAndNeck, List.mem_cons, List.not_mem_nil, or_false] at hm
    rcases hm with rfl | rfl | rfl | rfl | rfl <;> trivial
  have hcommitted : (tellers neckAndNeck).result? true =
      some (.ok (.committed [.ofDraft 1 Sample.account 1 (Sample.posting.underKey "k1")]
        ⟨200, some (.list [.int 1])⟩)) := by
    decide +kernel
  have hwaiting : (tellers neckAndNeck).result? false = none := by decide +kernel
  have hanswered : ((tellers neckAndNeck).play [.call false Sample.noon]).result? false =
      some (.ok (.replayed ⟨200, some (.list [.int 1])⟩)) := by decide +kernel
  have hiff := repeats_iff hreached hcommitted (List.cons_ne_nil _ _) hwaiting
    (fun _ h => absurd h List.not_mem_nil) hanswered
  exact ⟨hcommitted, hwaiting, hanswered, hiff.mp rfl⟩

/-- Somebody is faster than the first teller, and while it waits for its next attempt the second one
commits. -/
def overtaken : List (Move Bool) :=
  [.call false Sample.noon, .call false Sample.noon,
    .other (.append Sample.account 0 [Sample.posting]), .call false Sample.noon,
    .call true Sample.noon, .call true Sample.noon, .call true Sample.noon]

/-- The request has been executed, and the first teller is told that it was refused. It decides on a
history that contains its own posting, made by the second teller under the same key. -/
theorem refused_overtaken :
    (tellers overtaken).result? true =
        some (.ok (.committed [.ofDraft 2 Sample.account 2 (Sample.posting.underKey "k1")]
          ⟨200, some (.list [.int 2])⟩)) ∧
      (tellers overtaken).result? false = none ∧
      ((tellers overtaken).play [.call false Sample.noon]).result? false =
        some (.error (.failed (.rejected (.conflict "closed")))) ∧
      ¬ Repeats ⟨200, some (.list [.int 2])⟩ (.error (.failed (.rejected (.conflict "closed")))) :=
  ⟨by decide +kernel, by decide +kernel, by decide +kernel, id⟩

end Dispatch

end Journal
