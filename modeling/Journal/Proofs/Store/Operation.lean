import Journal.Proofs.Log.Order
import Journal.Store

/-!
# The operations of a store

Whatever happens to a store is one of its operations, in whatever order and by whomever. `Operation`
is the list of them with their arguments, `Operation.perform` carries one out, and `Store.after` is
the store that a sequence of them leaves behind; a store is reachable when it is `after` some
sequence on an empty one.

**`commit_cases` is the inversion of a command**, the only operation with more than one thing to do:
it is refused and the store is untouched, or answered from its record, or executed, and an executed
command can end in two ways only. The failure of the last step, keeping the response, is not among
them: a command is executed only when its key has no record, and then there is nothing for the
response to collide with.
-/

namespace Journal

namespace Store

inductive Operation
  | append (a : Aggregate) (expected : Seq) (drafts : List Draft)
  | read (after : EventId) (limit : Option Nat) (f : Filter) (scope : Scope)
  | history (a : Aggregate)
  | latest (a : Aggregate)
  | head
  | size
  | commit (c : Command) (now : Instant)
  | find (k : Guard.Key)
  | reserve (k : Guard.Key) (hash : String) (now : Instant)
  | record (k : Guard.Key) (hash : String) (response : Response) (now : Instant)
  | release (k : Guard.Key) (hash : String)
  | purge (asked : Duration) (now : Instant)

namespace Operation

def Answer : Operation → Type
  | append .. => Except StoreError (List Event)
  | read .. => Except StoreError Page
  | history _ => Except StoreError (List Event)
  | latest _ => Except StoreError Seq
  | head => Except StoreError EventId
  | size => Except StoreError Nat
  | commit .. => Attempt StoreError Outcome
  | find _ => Except StoreError (Option Guard.Record)
  | reserve .. => Except StoreError Guard.Verdict
  | record .. => Except StoreError Unit
  | release .. => Except StoreError Unit
  | purge .. => Except StoreError Nat

def perform : (op : Operation) → Store → op.Answer × Store
  | append a expected drafts, s => s.append a expected drafts
  | read after limit f scope, s => (s.read after limit f scope, s)
  | history a, s => (s.history a, s)
  | latest a, s => (s.latest a, s)
  | head, s => (s.head, s)
  | size, s => (s.size, s)
  | commit c now, s => s.commit c now
  | find k, s => (s.find k, s)
  | reserve k hash now, s => s.reserve k hash now
  | record k hash response now, s => s.record k hash response now
  | release k hash, s => s.release k hash
  | purge asked now, s => s.purge asked now

/-- The code that comes with the operation does not crash, whatever was committed. -/
def Calm : Operation → Prop
  | commit c _ => ∀ committed, ∃ response, c.respond committed = .ok response
  | _ => True

/-- The operation is none that removes records when they have expired. -/
def SparesRecords : Operation → Prop
  | purge .. => False
  | _ => True

end Operation

def after (s : Store) (ops : List Operation) : Store := ops.foldl (fun s op => (op.perform s).2) s

@[simp] theorem after_nil (s : Store) : s.after [] = s := rfl

@[simp] theorem after_cons (s : Store) (op : Operation) (ops : List Operation) :
    s.after (op :: ops) = ((op.perform s).2).after ops := rfl

theorem after_append (s : Store) (ops more : List Operation) :
    s.after (ops ++ more) = (s.after ops).after more :=
  List.foldl_append

/-! ## Inversions -/

/-- An append is refused, or its drafts are written where the writer expected the aggregate to
be. -/
theorem append_cases (s : Store) (a : Aggregate) (expected : Seq) (drafts : List Draft) :
    (∃ e, s.append a expected drafts = (.error e, s)) ∨
      (Batch.check drafts = .ok () ∧ s.poisoned = false ∧ expected = s.log.latest a ∧
        s.append a expected drafts = (.ok (s.log.extend a drafts).1,
          { s with log := (s.log.extend a drafts).2 })) := by
  unfold append
  cases hcheck : Batch.check drafts with
  | error e => exact Or.inl ⟨e, rfl⟩
  | ok _ =>
    cases hpoisoned : s.poisoned with
    | true => exact Or.inl ⟨.poisoned, rfl⟩
    | false =>
      by_cases hexp : expected = s.log.latest a
      · refine Or.inr ⟨rfl, rfl, hexp, ?_⟩
        simp [Log.append, hexp]
      · refine Or.inl ⟨.aggregateConflict a expected (some (s.log.latest a)), ?_⟩
        simp [Log.append, hexp]

structure Admits (s : Store) (c : Command) : Prop where
  wellFormed : Batch.check c.drafts = .ok ()
  alive : s.poisoned = false
  unrecorded : s.guard.lookup c.key = none
  current : c.expected = s.log.latest c.aggregate

def written (s : Store) (c : Command) : List Event × Log := s.log.extend c.aggregate c.drafts

/-- **What a command can come to.** -/
theorem commit_cases (s : Store) (c : Command) (now : Instant) :
    (∃ e, s.commit c now = (.error (.failed e), s)) ∨
    (∃ response, s.guard.precheck c.key c.hash = .ok (some response) ∧
      s.commit c now = (.ok (.replayed response), s)) ∨
    (s.Admits c ∧ ∃ response guard, c.respond (s.written c).1 = .ok response ∧
      s.guard.record c.key c.hash response now = .ok guard ∧
      s.commit c now = (.ok (.committed (s.written c).1 response),
        { s with log := (s.written c).2, guard })) ∨
    (s.Admits c ∧ ∃ stop, c.respond (s.written c).1 = .error stop ∧
      s.commit c now = (.error .crashed, { s with log := (s.written c).2, poisoned := true })) := by
  unfold commit
  cases hcheck : Batch.check c.drafts with
  | error e => exact Or.inl ⟨e, rfl⟩
  | ok _ =>
    cases hpoisoned : s.poisoned with
    | true => exact Or.inl ⟨.poisoned, rfl⟩
    | false =>
      cases hlookup : s.guard.lookup c.key with
      | some r =>
        cases hresolve : r.resolve c.hash with
        | error e => exact Or.inl ⟨e, by simp [Guard.precheck, hlookup, hresolve, Except.map]⟩
        | ok response =>
          have hpre : s.guard.precheck c.key c.hash = .ok (some response) := by
            simp [Guard.precheck, hlookup, hresolve, Except.map]
          exact Or.inr (Or.inl ⟨response, hpre, by simp [hpre]⟩)
      | none =>
        have hpre : s.guard.precheck c.key c.hash = .ok none := by simp [Guard.precheck, hlookup]
        by_cases hexp : c.expected = s.log.latest c.aggregate
        · have hadm : s.Admits c := ⟨hcheck, hpoisoned, hlookup, hexp⟩
          cases hrespond : c.respond (s.written c).1 with
          | error stop =>
            refine Or.inr (Or.inr (Or.inr ⟨hadm, stop, rfl, ?_⟩))
            rw [written] at hrespond
            simp [hpre, Log.append, hexp, hrespond, written]
          | ok response =>
            have hrecord : ∃ guard, s.guard.record c.key c.hash response now = .ok guard := by
              simp [Guard.record, hlookup]
            obtain ⟨guard, hrecord⟩ := hrecord
            refine Or.inr (Or.inr (Or.inl ⟨hadm, response, guard, rfl, hrecord, ?_⟩))
            rw [written] at hrespond
            simp [hpre, Log.append, hexp, hrespond, hrecord, written]
        · refine Or.inl ⟨.aggregateConflict c.aggregate c.expected
            (some (s.log.latest c.aggregate)), ?_⟩
          simp [hpre, Log.append, hexp]

/-- **What an operation can do to a store**: change the records at most, or write the next events of
an aggregate, or leave the store poisoned because the code that came with it crashed. -/
theorem perform_cases (op : Operation) (s : Store) :
    (∃ guard, (op.perform s).2 = { s with guard }) ∨
    (∃ a drafts guard, (op.perform s).2 = { s with log := (s.log.extend a drafts).2, guard }) ∨
    (¬ op.Calm ∧ ∃ a drafts,
      (op.perform s).2 = { s with log := (s.log.extend a drafts).2, poisoned := true }) := by
  cases op with
  | append a expected drafts =>
    rcases append_cases s a expected drafts with ⟨e, h⟩ | ⟨_, _, _, h⟩
    · exact Or.inl ⟨s.guard, congrArg Prod.snd h⟩
    · exact Or.inr (Or.inl ⟨a, drafts, s.guard, congrArg Prod.snd h⟩)
  | commit c now =>
    rcases commit_cases s c now with
      ⟨e, h⟩ | ⟨response, _, h⟩ | ⟨_, response, guard, _, _, h⟩ | ⟨_, stop, hstop, h⟩
    · exact Or.inl ⟨s.guard, congrArg Prod.snd h⟩
    · exact Or.inl ⟨s.guard, congrArg Prod.snd h⟩
    · exact Or.inr (Or.inl ⟨c.aggregate, c.drafts, guard, congrArg Prod.snd h⟩)
    · refine Or.inr (Or.inr ⟨fun hcalm => ?_, c.aggregate, c.drafts, congrArg Prod.snd h⟩)
      obtain ⟨response, hok⟩ := hcalm (s.written c).1
      rw [hstop] at hok
      cases hok
  -- The guard's operations look at the mark of a crash first and touch the records only.
  | reserve k hash now =>
    obtain ⟨policy, log, guard, _ | _⟩ := s
    · exact Or.inl ⟨(guard.reserve k hash now).2, rfl⟩
    · exact Or.inl ⟨guard, rfl⟩
  | record k hash response now =>
    obtain ⟨policy, log, guard, _ | _⟩ := s
    · cases hr : guard.record k hash response now with
      | error e => exact Or.inl ⟨guard, by simp [Operation.perform, record, hr]⟩
      | ok kept => exact Or.inl ⟨kept, by simp [Operation.perform, record, hr]⟩
    · exact Or.inl ⟨guard, rfl⟩
  | release k hash =>
    obtain ⟨policy, log, guard, _ | _⟩ := s
    · exact Or.inl ⟨guard.release k hash, rfl⟩
    · exact Or.inl ⟨guard, rfl⟩
  | purge asked now =>
    obtain ⟨policy, log, guard, _ | _⟩ := s
    · exact Or.inl ⟨(guard.purge asked now).2, rfl⟩
    · exact Or.inl ⟨guard, rfl⟩
  | read | history | latest | head | size | find => exact Or.inl ⟨s.guard, rfl⟩

/-- The history that a store shows is the log without the events of others. -/
theorem eventsOf_of_history {s : Store} (ordered : s.log.Ordered) {a : Aggregate}
    {history : List Event} (h : s.history a = .ok history) : history = s.log.eventsOf a := by
  unfold Store.history look at h
  cases hp : s.poisoned with
  | true =>
    rw [hp] at h
    cases h
  | false =>
    rw [hp] at h
    cases h
    exact ordered.history a

/-! ## What a sequence of operations keeps -/

theorem after_log_induction {P : Log → Prop} (step : ∀ l a drafts, P l → P (l.extend a drafts).2)
    {s : Store} (ops : List Operation) (h : P s.log) : P (s.after ops).log := by
  induction ops generalizing s with
  | nil => exact h
  | cons op ops ih =>
    rw [after_cons]
    apply ih
    rcases perform_cases op s with ⟨guard, hs⟩ | ⟨a, drafts, guard, hs⟩ | ⟨_, a, drafts, hs⟩
    · rw [hs]
      exact h
    · rw [hs]
      exact step _ a drafts h
    · rw [hs]
      exact step _ a drafts h

theorem ordered_after {s : Store} (h : s.log.Ordered) (ops : List Operation) :
    (s.after ops).log.Ordered :=
  after_log_induction (fun _ a drafts hl => hl.extend a drafts) ops h

/-- **The log only grows**: what was committed is still there, unchanged and in its place. -/
theorem prefix_after (s : Store) (ops : List Operation) :
    s.log.toList <+: (s.after ops).log.toList := by
  refine after_log_induction (P := fun l => s.log.toList <+: l.toList) (fun l a drafts hl => ?_) ops
    (List.prefix_refl _)
  rw [Log.toList_extend]
  exact hl.trans (List.prefix_append _ _)

@[simp] theorem policy_after (s : Store) (ops : List Operation) :
    (s.after ops).policy = s.policy := by
  induction ops generalizing s with
  | nil => rfl
  | cons op ops ih =>
    rw [after_cons, ih]
    rcases perform_cases op s with ⟨guard, hs⟩ | ⟨a, drafts, guard, hs⟩ | ⟨_, a, drafts, hs⟩
      <;> rw [hs]

theorem alive_after {s : Store} (h : s.poisoned = false) {ops : List Operation}
    (calm : ∀ op ∈ ops, op.Calm) :
    (s.after ops).poisoned = false := by
  induction ops generalizing s with
  | nil => exact h
  | cons op ops ih =>
    rw [after_cons]
    refine ih (s := (op.perform s).2) ?_ fun o ho => calm o (List.mem_cons_of_mem _ ho)
    rcases perform_cases op s with ⟨guard, hs⟩ | ⟨a, drafts, guard, hs⟩ | ⟨hcrash, _⟩
    · rw [hs]
      exact h
    · rw [hs]
      exact h
    · exact absurd (calm op List.mem_cons_self) hcrash

end Store

namespace Sample

/-! ## A quarter's business

Two accounts, a posting and a payment, for the instances that show a theorem at work. -/

def noon : Instant := ⟨1704110400, 0⟩

def account : Aggregate := ⟨⟨"ledger", by decide⟩, "acct-1"⟩

def savings : Aggregate := ⟨⟨"ledger", by decide⟩, "acct-2"⟩

def org : OrgId := ⟨.timeOrdered 0 0 7⟩

def posting : Draft :=
  ⟨"ledger.posted", 1, noon, .system "teller" (some org) ⟨.timeOrdered 0 0 1⟩, .object []⟩

def key : Guard.Key := ⟨"_global", "teller", "payments.create", "k1"⟩

/-- A payment that takes an account from its third event on and answers with an empty response. -/
def payment : Command := .make key "h1" account 2 [posting] fun _ => .ok ⟨200, none⟩

/-- Two accounts, an append that comes too late and a payment. -/
def quarter : List Store.Operation :=
  [.append account 0 [posting, posting], .append savings 4 [posting],
    .append savings 0 [posting], .commit payment noon]

theorem calm_quarter : ∀ op ∈ quarter, op.Calm := by
  intro op hop
  simp only [quarter, List.mem_cons, List.not_mem_nil, or_false] at hop
  rcases hop with rfl | rfl | rfl | rfl
  · trivial
  · trivial
  · trivial
  · intro committed
    exact ⟨⟨200, none⟩, rfl⟩

end Sample

end Journal
