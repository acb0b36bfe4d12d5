import Journal.Proofs.Guard.Lookup
import Journal.Proofs.Store.Operation

/-!
# A command is executed once

A command that was executed is never executed again, as long as there is its record: whoever sends
it again gets the response of the first time, and another request under the same key is refused.
Neither the aggregate nor the events nor the expected number of the repetition are looked at, since
the record is looked up before the log.

**`executed_once` says this of every store and of everything that can happen to it afterwards.** Two
interfaces write the records, the commands and the guard by itself, and `lookup_perform` is where
both are gone through: of all that can be done with a store, only a purge touches an answered
record. So it does not matter what came before the execution, and nothing is assumed about it.
-/

namespace Journal

namespace Store

variable {s : Store} {k : Guard.Key} {r : Guard.Record} {response : Response} {c : Command}
  {now : Instant} {events : List Event}

/-! ## An answered record -/

/-- **What an operation does to an answered record**: nothing, unless it is a purge. -/
theorem lookup_perform (hr : s.guard.lookup k = some r) (answered : r.response = some response)
    (op : Operation) :
    (op.perform s).2.guard.lookup k = some r ∨
      (∃ asked now, op = .purge asked now) ∧ (op.perform s).2.guard.lookup k = none := by
  cases op with
  | append a expected drafts =>
    rcases append_cases s a expected drafts with ⟨e, h⟩ | ⟨_, _, _, h⟩
    · rw [Operation.perform, h]
      exact Or.inl hr
    · rw [Operation.perform, h]
      exact Or.inl hr
  | commit c now =>
    rcases commit_cases s c now with
      ⟨e, h⟩ | ⟨_, _, h⟩ | ⟨_, _, guard, _, hrecord, h⟩ | ⟨_, stop, _, h⟩
    · rw [Operation.perform, h]
      exact Or.inl hr
    · rw [Operation.perform, h]
      exact Or.inl hr
    · rw [Operation.perform, h]
      exact Or.inl (Guard.lookup_record_of_answered hr answered hrecord)
    · rw [Operation.perform, h]
      exact Or.inl hr
  | reserve l hash now =>
    rw [Operation.perform, reserve]
    split
    · exact Or.inl hr
    · exact Or.inl (Guard.lookup_reserve_of_answered hr l hash now)
  | record l hash other now =>
    rw [Operation.perform, record]
    split
    · exact Or.inl hr
    · cases hrecord : s.guard.record l hash other now with
      | error e => exact Or.inl hr
      | ok guard => exact Or.inl (Guard.lookup_record_of_answered hr answered hrecord)
  | release l hash =>
    rw [Operation.perform, release]
    split
    · exact Or.inl hr
    · exact Or.inl (Guard.lookup_release_of_answered hr answered l hash)
  | purge asked now =>
    rw [Operation.perform, purge]
    split
    · exact Or.inl hr
    · rcases Guard.lookup_purge_cases hr asked now with h | h
      · exact Or.inl h
      · exact Or.inr ⟨⟨asked, now, rfl⟩, h⟩
  | read | history | latest | head | size | find => exact Or.inl hr

theorem lookup_perform_of_spares (hr : s.guard.lookup k = some r)
    (answered : r.response = some response) {op : Operation} (spares : op.SparesRecords) :
    (op.perform s).2.guard.lookup k = some r := by
  rcases lookup_perform hr answered op with hkept | ⟨⟨asked, now, rfl⟩, _⟩
  · exact hkept
  · exact absurd spares id

def PurgedIn (s : Store) (k : Guard.Key) (ops : List Operation) : Prop :=
  ∃ before asked now since, ops = before ++ .purge asked now :: since ∧
    (s.after before).guard.lookup k ≠ none ∧
    (s.after (before ++ [.purge asked now])).guard.lookup k = none

theorem PurgedIn.cons {op : Operation} {ops : List Operation}
    (h : (op.perform s).2.PurgedIn k ops) :
    s.PurgedIn k (op :: ops) := by
  obtain ⟨before, asked, now, since, rfl, hthere, hgone⟩ := h
  exact ⟨op :: before, asked, now, since, rfl, hthere, hgone⟩

theorem PurgedIn.mem {ops : List Operation} (h : s.PurgedIn k ops) :
    ∃ asked now, .purge asked now ∈ ops := by
  obtain ⟨before, asked, now, since, rfl, _, _⟩ := h
  exact ⟨asked, now, by simp⟩

/-- An answered record stays as it is until it is purged. -/
theorem lookup_after (hr : s.guard.lookup k = some r) (answered : r.response = some response)
    (ops : List Operation) :
    s.PurgedIn k ops ∨ (s.after ops).guard.lookup k = some r := by
  induction ops generalizing s with
  | nil => exact Or.inr hr
  | cons op ops ih =>
    rcases lookup_perform hr answered op with hkept | ⟨⟨asked, now, rfl⟩, hgone⟩
    · rcases ih hkept with hpurged | hafter
      · exact Or.inl hpurged.cons
      · exact Or.inr hafter
    · refine Or.inl ⟨[], asked, now, ops, rfl, ?_, hgone⟩
      rw [after_nil, hr]
      exact Option.some_ne_none r

/-! ## Commands that find a record -/

theorem commit_of_recorded (hr : s.guard.lookup c.key = some r) (now : Instant) :
    s.commit c now =
      (match Batch.check c.drafts with
        | .error e => .error (.failed e)
        | .ok () =>
          if s.poisoned then .error (.failed .poisoned)
          else match r.resolve c.hash with
            | .error e => .error (.failed e)
            | .ok response => .ok (.replayed response), s) := by
  unfold commit
  cases Batch.check c.drafts with
  | error e => rfl
  | ok _ =>
    cases s.poisoned with
    | true => rfl
    | false =>
      cases hresolve : r.resolve c.hash with
      | error e => simp [Guard.precheck, hr, hresolve, Except.map]
      | ok response => simp [Guard.precheck, hr, hresolve, Except.map]

theorem resolve_of_answered (answered : r.response = some response) (hash : String) :
    r.resolve hash = if hash = r.hash then .ok response else .error r.key.reused := by
  by_cases h : r.hash = hash
  · simp [Guard.Record.resolve, Guard.Record.verdict, h, answered]
  · simp [Guard.Record.resolve, Guard.Record.verdict, h, Ne.symm h]

theorem isConflict_of_check {drafts : List Draft} {e : StoreError}
    (h : Batch.check drafts = .error e) :
    e.isConflict = false := by
  unfold Batch.check at h
  split at h
  · cases h
  · cases h
    rfl

/-- A repetition is not a matter of who was faster: it gets the response, or it fails for good. -/
theorem commit_of_answered (hr : s.guard.lookup c.key = some r)
    (answered : r.response = some response) (hash : c.hash = r.hash) (now : Instant) :
    s.commit c now = (.ok (.replayed response), s) ∨
      ∃ e : StoreError, e.isConflict = false ∧ s.commit c now = (.error (.failed e), s) := by
  rw [commit_of_recorded hr]
  cases hcheck : Batch.check c.drafts with
  | error e => exact Or.inr ⟨e, isConflict_of_check hcheck, rfl⟩
  | ok _ =>
    cases s.poisoned with
    | true => exact Or.inr ⟨.poisoned, rfl, rfl⟩
    | false =>
      left
      rw [resolve_of_answered answered, if_pos hash]
      rfl

/-- What a command was that the store says it has executed, and what it left. -/
structure Executed (s : Store) (c : Command) (now : Instant) (events : List Event)
    (response : Response) : Prop where
  admits : s.Admits c
  written : events = (s.written c).1
  responds : c.respond events = .ok response
  log : (s.commit c now).2.log = (s.written c).2
  recorded : (s.commit c now).2.guard.lookup c.key = some ⟨c.key, c.hash, some response, now⟩
  alive : (s.commit c now).2.poisoned = false

theorem executed_of_committed (h : (s.commit c now).1 = .ok (.committed events response)) :
    s.Executed c now events response := by
  rcases commit_cases s c now with
    ⟨e, hc⟩ | ⟨first, _, hc⟩ | ⟨hadmits, made, guard, hrespond, hrecord, hc⟩ | ⟨_, _, _, hc⟩
  · rw [hc] at h
    cases h
  · rw [hc] at h
    cases h
  · rw [hc] at h
    cases h
    refine ⟨hadmits, rfl, hrespond, ?_, ?_, ?_⟩
    · rw [hc]
    · rw [hc, Guard.lookup_record hrecord, if_pos rfl, hadmits.unrecorded]
      rfl
    · rw [hc]
      exact hadmits.alive
  · rw [hc] at h
    cases h

/-! ## Once -/

/-- The request of the record has been answered for good. -/
structure Settled (s : Store) (r : Guard.Record) (response : Response) : Prop where
  found : s.find r.key = .ok (some r)
  /-- Whatever else is in it, a well-formed command under the key writes nothing. -/
  repeated : ∀ c now, c.key = r.key → Batch.check c.drafts = .ok () →
    s.commit c now = (if c.hash = r.hash then .ok (.replayed response)
      else .error (.failed r.key.reused), s)

theorem settled_of_lookup (alive : s.poisoned = false) (hr : s.guard.lookup r.key = some r)
    (answered : r.response = some response) : s.Settled r response := by
  refine ⟨?_, fun c now hkey hcheck => ?_⟩
  · simp [find, look, alive, hr]
  · rw [commit_of_recorded (hkey ▸ hr), hcheck, alive, resolve_of_answered answered]
    by_cases hhash : c.hash = r.hash
    · simp [hhash]
    · simp [hhash]

/-- **A command is executed once.** Between two executions under a key its record was purged; and
until then the record stays as it is, and every well-formed command under the key is answered from
it. The operations in between do not crash, since a store that has met a crash executes nothing any
more. -/
theorem executed_once (committed : (s.commit c now).1 = .ok (.committed events response))
    {ops : List Operation} (calm : ∀ op ∈ ops, op.Calm) :
    (∀ d later more again, d.key = c.key →
      (((s.commit c now).2.after ops).commit d later).1 = .ok (.committed more again) →
        (s.commit c now).2.PurgedIn c.key ops) ∧
    ((s.commit c now).2.PurgedIn c.key ops ∨
      ((s.commit c now).2.after ops).Settled ⟨c.key, c.hash, some response, now⟩ response) := by
  have hexecuted := executed_of_committed committed
  have hlookup := lookup_after hexecuted.recorded rfl ops
  refine ⟨fun d later more again hkey hd => ?_, hlookup.imp_right fun hr => ?_⟩
  · refine hlookup.resolve_right fun hr => ?_
    have hnone := (executed_of_committed hd).admits.unrecorded
    rw [hkey, hr] at hnone
    exact Option.some_ne_none _ hnone
  · exact settled_of_lookup (alive_after hexecuted.alive calm) hr rfl

def meddling : List Operation :=
  [.record Sample.key "h1" ⟨500, none⟩ Sample.noon, .release Sample.key "h1",
    .reserve Sample.key "h2" Sample.noon, .append Sample.account 3 [Sample.posting]]

theorem calm_meddling : ∀ op ∈ meddling, op.Calm := by
  intro op hop
  simp only [meddling, List.mem_cons, List.not_mem_nil, or_false] at hop
  rcases hop with rfl | rfl | rfl | rfl <;> trivial

/-- The quarter's payment is executed once, whatever is tried afterwards. -/
theorem executed_once_payment :
    (((empty .standard).after (Sample.quarter.take 3)).commit Sample.payment Sample.noon).1 =
        .ok (.committed [.ofDraft 4 Sample.account 3 (Sample.posting.underKey "k1")] ⟨200, none⟩) ∧
      (∀ op ∈ meddling, op.Calm) ∧
      ((((empty .standard).after (Sample.quarter.take 3)).commit Sample.payment Sample.noon).2.after
        meddling).Settled ⟨Sample.key, "h1", some ⟨200, none⟩, Sample.noon⟩ ⟨200, none⟩ := by
  have hcommitted :
      (((empty .standard).after (Sample.quarter.take 3)).commit Sample.payment Sample.noon).1 =
        .ok (.committed [.ofDraft 4 Sample.account 3 (Sample.posting.underKey "k1")]
          ⟨200, none⟩) := by
    decide +kernel
  refine ⟨hcommitted, calm_meddling, (executed_once hcommitted calm_meddling).2.resolve_left
    fun hpurged => ?_⟩
  obtain ⟨asked, later, hmem⟩ := hpurged.mem
  simp [meddling] at hmem

end Store

end Journal
