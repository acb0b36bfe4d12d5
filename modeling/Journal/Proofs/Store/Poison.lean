import Journal.Proofs.Read.Scope
import Journal.Proofs.Store.Operation

/-!
# A crash silences the store

The code that makes a response runs in the middle of a write: the events of the command are in the
log already, its record is not. When it crashes there, the store is left in a state that no
operation was to leave it in.

**Nothing of that state is ever shown** (`silent_of_crashed`). From then on every operation fails,
for as long as the store lives, and changes nothing; all that is still answered as before are the
refusals that need no look at the store, of a malformed batch and of a read that the scope does not
permit. And nothing but a crash has this effect: in a run in which none of the code crashed that was
called, no operation fails because of one.

A record is looked up in one way only, whether as the record of a command or by the guard;
`Operation.find` is both.
-/

namespace Journal

def Attempt.stop? {ε α : Type} : Attempt ε α → Option (Stop ε)
  | .ok _ => none
  | .error stop => some stop

namespace Store

namespace Operation

/-- How an operation ended that gave no answer. -/
def stop? : (op : Operation) → op.Answer → Option (Stop StoreError)
  | append .., (r : Except StoreError (List Event)) => (Attempt.ofExcept r).stop?
  | read .., (r : Except StoreError Page) => (Attempt.ofExcept r).stop?
  | history _, (r : Except StoreError (List Event)) => (Attempt.ofExcept r).stop?
  | latest _, (r : Except StoreError Seq) => (Attempt.ofExcept r).stop?
  | head, (r : Except StoreError EventId) => (Attempt.ofExcept r).stop?
  | size, (r : Except StoreError Nat) => (Attempt.ofExcept r).stop?
  | commit .., (r : Attempt StoreError Outcome) => r.stop?
  | find _, (r : Except StoreError (Option Guard.Record)) => (Attempt.ofExcept r).stop?
  | reserve .., (r : Except StoreError Guard.Verdict) => (Attempt.ofExcept r).stop?
  | record .., (r : Except StoreError Unit) => (Attempt.ofExcept r).stop?
  | release .., (r : Except StoreError Unit) => (Attempt.ofExcept r).stop?
  | purge .., (r : Except StoreError Nat) => (Attempt.ofExcept r).stop?

/-- Why the operation is refused before the store is looked at, if it is. These refusals are given
by any store, so that they do not tell whether it is poisoned. -/
def refusal? (p : Policy) : Operation → Option StoreError
  | append _ _ drafts => (Batch.fault? drafts).map fun f => .validation f.message
  | commit c _ => (Batch.fault? c.drafts).map fun f => .validation f.message
  | read _ _ f scope => (Access.refusal? f p scope).map fun d => .forbidden d.message
  | _ => none

/-- The code that came with the operation was called, on the events that had just been written, and
crashed. -/
def Crashes (s : Store) : Operation → Prop
  | commit c _ => s.Admits c ∧ ∃ stop, c.respond (s.written c).1 = .error stop
  | _ => False

end Operation

def CrashedIn (s : Store) (ops : List Operation) : Prop :=
  ∃ before op since, ops = before ++ op :: since ∧ op.Crashes (s.after before)

variable {s : Store} {op : Operation} {ops : List Operation}

/-! ## What poisons a store -/

theorem crashedIn_cons_iff : s.CrashedIn (op :: ops) ↔ op.Crashes s ∨
    (op.perform s).2.CrashedIn ops := by
  constructor
  · rintro ⟨_ | ⟨first, before⟩, crashing, since, hops, hcrash⟩
    · obtain ⟨rfl, rfl⟩ := List.cons.inj hops
      exact Or.inl hcrash
    · obtain ⟨rfl, rfl⟩ := List.cons.inj hops
      exact Or.inr ⟨before, crashing, since, rfl, hcrash⟩
  · rintro (hcrash | ⟨before, crashing, since, rfl, hcrash⟩)
    · exact ⟨[], op, ops, rfl, hcrash⟩
    · exact ⟨op :: before, crashing, since, rfl, hcrash⟩

theorem commit_of_crashes {c : Command} {now : Instant} (h : (Operation.commit c now).Crashes s) :
    s.commit c now = (.error .crashed, { s with log := (s.written c).2, poisoned := true }) := by
  obtain ⟨admits, stop, hstop⟩ := h
  have hprecheck : s.guard.precheck c.key c.hash = .ok none := by
    rw [Guard.precheck, admits.unrecorded]
  have happend : s.log.append c.aggregate c.expected c.drafts = .ok (s.written c) := by
    rw [Log.append, if_pos admits.current]
    rfl
  rw [commit, admits.wellFormed]
  dsimp only
  rw [admits.alive, hprecheck, happend]
  dsimp only
  rw [hstop]
  rfl

/-- **A store is poisoned by a crash and by nothing else.** -/
theorem poisoned_perform (op : Operation) (s : Store) :
    (op.perform s).2.poisoned = true ↔ s.poisoned = true ∨ op.Crashes s := by
  by_cases hcrash : op.Crashes s
  · refine iff_of_true ?_ (Or.inr hcrash)
    cases op with
    | commit c now => rw [Operation.perform, commit_of_crashes hcrash]
    | _ => exact hcrash.elim
  · rw [or_iff_left hcrash]
    have hcases := perform_cases op s
    cases op with
    | commit c now =>
      rw [Operation.perform]
      rcases commit_cases s c now with
        ⟨e, h⟩ | ⟨_, _, h⟩ | ⟨_, _, _, _, _, h⟩ | ⟨hadmits, stop, hstop, h⟩
      · rw [h]
      · rw [h]
      · rw [h]
      · exact absurd ⟨hadmits, stop, hstop⟩ hcrash
    -- No code comes with any other operation.
    | _ =>
      rcases hcases with ⟨guard, hs⟩ | ⟨a, drafts, guard, hs⟩ | ⟨hcode, _⟩
      · rw [hs]
      · rw [hs]
      · exact absurd trivial hcode

theorem poisoned_after (s : Store) (ops : List Operation) :
    (s.after ops).poisoned = true ↔ s.poisoned = true ∨ s.CrashedIn ops := by
  induction ops generalizing s with
  | nil =>
    have hnone : ¬ s.CrashedIn [] := by simp [CrashedIn]
    rw [after_nil, or_iff_left hnone]
  | cons op ops ih => rw [after_cons, ih, poisoned_perform, crashedIn_cons_iff, or_assoc]

theorem alive_of_not_crashedIn {policy : Policy} {ops : List Operation}
    (h : ¬ (empty policy).CrashedIn ops) :
    ((empty policy).after ops).poisoned = false := by
  refine Bool.eq_false_iff.mpr fun hpoisoned => ?_
  rcases (poisoned_after (empty policy) ops).mp hpoisoned with hempty | hcrashed
  · cases hempty
  · exact h hcrashed

theorem not_crashedIn_of_calm {policy : Policy} {ops : List Operation}
    (calm : ∀ op ∈ ops, op.Calm) :
    ¬ (empty policy).CrashedIn ops := by
  intro h
  have hpoisoned := (poisoned_after (empty policy) ops).mpr (Or.inr h)
  rw [alive_after rfl calm] at hpoisoned
  cases hpoisoned

/-! ## What is answered -/

theorem check_eq (drafts : List Draft) :
    Batch.check drafts = match Batch.fault? drafts with
      | some f => .error (.validation f.message)
      | none => .ok () := by
  rw [Batch.check]
  cases Batch.fault? drafts with
  | none => rfl
  | some f => rfl

theorem look_of_poisoned {α : Type} (poisoned : s.poisoned = true) (f : Store → α) :
    s.look f = .error .poisoned :=
  if_pos poisoned

theorem look_of_alive {α : Type} (alive : s.poisoned = false) (f : Store → α) :
    s.look f = .ok (f s) :=
  if_neg (by simp [alive])

/-- **A poisoned store answers nothing**, and stays as it is. -/
theorem stop_of_poisoned (poisoned : s.poisoned = true) (op : Operation) :
    op.stop? (op.perform s).1 = some (.failed ((op.refusal? s.policy).getD .poisoned)) ∧
    (op.perform s).2 = s := by
  cases op with
  | append a expected drafts =>
    rw [Operation.perform, append, check_eq, Operation.refusal?]
    cases Batch.fault? drafts with
    | some f => exact ⟨rfl, rfl⟩
    | none =>
      dsimp only
      rw [if_pos poisoned]
      exact ⟨rfl, rfl⟩
  | commit c now =>
    rw [Operation.perform, commit, check_eq, Operation.refusal?]
    cases Batch.fault? c.drafts with
    | some f => exact ⟨rfl, rfl⟩
    | none =>
      dsimp only
      rw [if_pos poisoned]
      exact ⟨rfl, rfl⟩
  | read past limit f scope =>
    rw [Operation.perform, Store.read, Access.authorize_eq, Operation.refusal?]
    cases Access.refusal? f s.policy scope with
    | some d => exact ⟨rfl, rfl⟩
    | none =>
      dsimp only [bind, Except.bind]
      rw [look_of_poisoned poisoned]
      exact ⟨rfl, rfl⟩
  | history a =>
    rw [Operation.perform, history, look_of_poisoned poisoned]
    exact ⟨rfl, rfl⟩
  | latest a =>
    rw [Operation.perform, latest, look_of_poisoned poisoned]
    exact ⟨rfl, rfl⟩
  | head =>
    rw [Operation.perform, Store.head, look_of_poisoned poisoned]
    exact ⟨rfl, rfl⟩
  | size =>
    rw [Operation.perform, size, look_of_poisoned poisoned]
    exact ⟨rfl, rfl⟩
  | find k =>
    rw [Operation.perform, find, look_of_poisoned poisoned]
    exact ⟨rfl, rfl⟩
  | reserve k hash now =>
    rw [Operation.perform, reserve, if_pos poisoned]
    exact ⟨rfl, rfl⟩
  | record k hash response now =>
    rw [Operation.perform, record, if_pos poisoned]
    exact ⟨rfl, rfl⟩
  | release k hash =>
    rw [Operation.perform, release, if_pos poisoned]
    exact ⟨rfl, rfl⟩
  | purge asked now =>
    rw [Operation.perform, purge, if_pos poisoned]
    exact ⟨rfl, rfl⟩

theorem ne_poisoned_of_resolve {r : Guard.Record} {hash : String} {e : StoreError}
    (h : r.resolve hash = .error e) :
    e ≠ .poisoned := by
  unfold Guard.Record.resolve at h
  split at h
  · cases h
  · cases h
    exact nofun
  · cases h
    exact nofun
  · cases h
    exact nofun

theorem ne_poisoned_of_precheck {g : Guard} {k : Guard.Key} {hash : String} {e : StoreError}
    (h : g.precheck k hash = .error e) : e ≠ .poisoned := by
  unfold Guard.precheck at h
  split at h
  · cases h
  · next r _ =>
    cases hresolve : r.resolve hash with
    | ok response =>
      rw [hresolve] at h
      cases h
    | error e' =>
      rw [hresolve] at h
      cases h
      exact ne_poisoned_of_resolve hresolve

theorem ne_poisoned_of_record {g : Guard} {k : Guard.Key} {hash : String} {response : Response}
    {now : Instant} {e : StoreError} (h : g.record k hash response now = .error e) :
    e ≠ .poisoned := by
  unfold Guard.record at h
  split at h
  · cases h
  · split at h
    · split at h
      · cases h
      · cases h
    · cases h
      exact nofun

theorem ne_poisoned_of_append {l : Log} {a : Aggregate} {expected : Seq} {drafts : List Draft}
    {e : StoreError} (h : l.append a expected drafts = .error e) : e ≠ .poisoned := by
  unfold Log.append at h
  split at h
  · cases h
  · cases h
    exact nofun

theorem stop_of_alive (alive : s.poisoned = false) (op : Operation) :
    op.stop? (op.perform s).1 ≠ some (.failed .poisoned) := by
  -- A failure is seen as it is.
  have hfailed {e : StoreError} (he : e ≠ .poisoned) : some (Stop.failed e) ≠
      some (.failed .poisoned) := fun h =>
    he (Stop.failed.inj (Option.some.inj h))
  have hended : (none : Option (Stop StoreError)) ≠ some (.failed .poisoned) := by rintro ⟨⟩
  cases op with
  | append a expected drafts =>
    rw [Operation.perform, append, check_eq]
    cases Batch.fault? drafts with
    | some f => exact hfailed (by rintro ⟨⟩)
    | none =>
      dsimp only
      rw [alive]
      cases happend : s.log.append a expected drafts with
      | error e => exact hfailed (ne_poisoned_of_append happend)
      | ok written => exact hended
  | commit c now =>
    rw [Operation.perform, commit, check_eq]
    cases Batch.fault? c.drafts with
    | some f => exact hfailed (by rintro ⟨⟩)
    | none =>
      dsimp only
      rw [alive]
      cases hprecheck : s.guard.precheck c.key c.hash with
      | error e => exact hfailed (ne_poisoned_of_precheck hprecheck)
      | ok recorded =>
        cases recorded with
        | some response => exact hended
        | none =>
          cases happend : s.log.append c.aggregate c.expected c.drafts with
          | error e => exact hfailed (ne_poisoned_of_append happend)
          | ok written =>
            dsimp only
            cases c.respond written.1 with
            | error stop => rintro ⟨⟩
            | ok response =>
              dsimp only
              cases hrecord : s.guard.record c.key c.hash response now with
              | error e => exact hfailed (ne_poisoned_of_record hrecord)
              | ok guard => exact hended
  | read past limit f scope =>
    rw [Operation.perform, Store.read, Access.authorize_eq]
    cases Access.refusal? f s.policy scope with
    | some d => exact hfailed (by rintro ⟨⟩)
    | none =>
      dsimp only [bind, Except.bind]
      rw [look_of_alive alive]
      exact hended
  | history a =>
    rw [Operation.perform, history, look_of_alive alive]
    exact hended
  | latest a =>
    rw [Operation.perform, latest, look_of_alive alive]
    exact hended
  | head =>
    rw [Operation.perform, Store.head, look_of_alive alive]
    exact hended
  | size =>
    rw [Operation.perform, size, look_of_alive alive]
    exact hended
  | find k =>
    rw [Operation.perform, find, look_of_alive alive]
    exact hended
  | reserve k hash now =>
    rw [Operation.perform, reserve, alive]
    exact hended
  | record k hash response now =>
    rw [Operation.perform, record, alive]
    cases hrecord : s.guard.record k hash response now with
    | error e => exact hfailed (ne_poisoned_of_record hrecord)
    | ok guard => exact hended
  | release k hash =>
    rw [Operation.perform, release, alive]
    exact hended
  | purge asked now =>
    rw [Operation.perform, purge, alive]
    exact hended

/-! ## Runs -/

/-- What is refused without a look at the store is a malformed batch or a read that the scope does
not permit. -/
theorem refusal_cases {policy : Policy} {e : StoreError} (h : op.refusal? policy = some e) :
    ∃ reason, e = .validation reason ∨ e = .forbidden reason := by
  cases op with
  | append a expected drafts =>
    obtain ⟨f, _, rfl⟩ := Option.map_eq_some_iff.mp h
    exact ⟨f.message, Or.inl rfl⟩
  | commit c now =>
    obtain ⟨f, _, rfl⟩ := Option.map_eq_some_iff.mp h
    exact ⟨f.message, Or.inl rfl⟩
  | read past limit f scope =>
    obtain ⟨d, _, rfl⟩ := Option.map_eq_some_iff.mp h
    exact ⟨d.message, Or.inr rfl⟩
  | _ => cases h

/-- **A crash silences the store**: after it every operation fails, because of the crash or as it is
refused by any store, and changes nothing; before it none fails because of one. -/
theorem silent_of_crashed (policy : Policy) (ops : List Operation) (op : Operation) :
    ((empty policy).CrashedIn ops →
      op.stop? (op.perform ((empty policy).after ops)).1 =
        some (.failed ((op.refusal? policy).getD .poisoned)) ∧
      (op.perform ((empty policy).after ops)).2 = (empty policy).after ops) ∧
    (∀ e, op.refusal? policy = some e → ∃ reason, e = .validation reason ∨ e = .forbidden reason) ∧
    (¬ (empty policy).CrashedIn ops →
      op.stop? (op.perform ((empty policy).after ops)).1 ≠ some (.failed .poisoned)) := by
  have hpoisoned := poisoned_after (empty policy) ops
  refine ⟨fun hcrashed => ?_, fun e he => refusal_cases he, fun hcalm => ?_⟩
  · have hstop := stop_of_poisoned (hpoisoned.mpr (Or.inr hcrashed)) op
    rw [policy_after] at hstop
    exact hstop
  · refine stop_of_alive (Bool.eq_false_iff.mpr fun h => ?_) op
    rcases hpoisoned.mp h with hempty | hcrashed
    · cases hempty
    · exact hcalm hcrashed

end Store

namespace Sample

def faulty : Command := .make key "h1" account 2 [posting] fun _ => .error .crashed

def mishap : List Store.Operation := [.append account 0 [posting, posting], .commit faulty noon]

theorem crashedIn_mishap : (Store.empty .standard).CrashedIn mishap := by
  refine ⟨[.append account 0 [posting, posting]], .commit faulty noon, [], rfl,
    ⟨?_, by decide +kernel, ?_, ?_⟩, ?_⟩
  · rfl
  · rfl
  · decide +kernel
  · exact ⟨.crashed, rfl⟩

end Sample

namespace Store

/-- After the mishap the head is not told, and an empty batch is refused as ever; after the
quarter's business the head is told. -/
theorem silent_mishap :
    (empty .standard).CrashedIn Sample.mishap ∧
      Operation.head.stop? (Operation.head.perform ((empty .standard).after Sample.mishap)).1 =
        some (.failed .poisoned) ∧
      (∃ reason, StoreError.validation BatchFault.empty.message = .validation reason ∨
        StoreError.validation BatchFault.empty.message = .forbidden reason) ∧
      ¬ (empty .standard).CrashedIn Sample.quarter ∧
      Operation.head.stop? (Operation.head.perform ((empty .standard).after Sample.quarter)).1 ≠
        some (.failed .poisoned) := by
  have hcalm : ¬ (empty .standard).CrashedIn Sample.quarter := fun h => by
    have hpoisoned := (poisoned_after (empty .standard) Sample.quarter).mpr (Or.inr h)
    rw [alive_after rfl Sample.calm_quarter] at hpoisoned
    cases hpoisoned
  exact ⟨Sample.crashedIn_mishap,
    ((silent_of_crashed .standard Sample.mishap .head).1 Sample.crashedIn_mishap).1,
    (silent_of_crashed .standard Sample.mishap (.append Sample.account 0 [])).2.1 _ rfl,
    hcalm, (silent_of_crashed .standard Sample.quarter .head).2.2 hcalm⟩

end Store

end Journal
