import Journal.Proofs.Store.Once
import Mathlib.Logic.Basic

/-!
# A command is one step

A command changes the log first and the records afterwards, and the second change can be refused: a
response is not kept under a key that belongs to another request. If that happened here, there would
be events in the log that no repetition of the command knows of.

It cannot happen. The key was looked up before the events were written and had no record, and the
log has no part in the records (`record_of_precheck`). **So a command is executed as a whole, or it
leaves the store as it was** (`atomic_commit`); its answer says which of the two.
-/

namespace Journal

namespace Store

variable {s : Store} {c : Command} {now : Instant} {events : List Event} {response : Response}

/-- The second store is what the first becomes when the command is executed, with these events and
this response. -/
structure Executes (s t : Store) (c : Command) (now : Instant) (events : List Event)
    (response : Response) : Prop where
  unrecorded : s.guard.lookup c.key = none
  current : c.expected = s.log.latest c.aggregate
  responds : c.respond events = .ok response
  -- There is one event for each draft, in order, and nothing in it has changed.
  drafts : events.map (·.draft) = c.drafts
  aggregate : ∀ e ∈ events, e.aggregate = c.aggregate
  ids : events.map (·.id) = List.range' (s.log.head + 1) c.drafts.length
  seqs : events.map (·.seq) = List.range' (c.expected + 1) c.drafts.length
  log : t.log.toList = s.log.toList ++ events
  history : ∀ a, t.log.history a = if a = c.aggregate then s.log.history a ++ events
    else s.log.history a
  recorded : t.guard.lookup c.key = some ⟨c.key, c.hash, some response, now⟩
  others : ∀ k, k ≠ c.key → t.guard.lookup k = s.guard.lookup k
  policy : t.policy = s.policy
  alive : t.poisoned = s.poisoned

/-- **The last step of a command does not fail**: what is to be executed has no record that could be
in its way. -/
theorem record_of_precheck (h : s.guard.precheck c.key c.hash = .ok none) (response : Response)
    (now : Instant) :
    ∃ guard, s.guard.record c.key c.hash response now = .ok guard := by
  unfold Guard.precheck at h
  cases hlookup : s.guard.lookup c.key with
  | none =>
    rw [Guard.record, hlookup]
    exact ⟨_, rfl⟩
  | some r =>
    rw [hlookup] at h
    dsimp only at h
    cases hresolve : r.resolve c.hash with
    | error e =>
      rw [hresolve] at h
      cases h
    | ok first =>
      rw [hresolve] at h
      cases h

theorem executes_of_admits (ordered : s.log.Ordered) (admits : s.Admits c) {guard : Guard}
    (responds : c.respond (s.written c).1 = .ok response)
    (recorded : s.guard.record c.key c.hash response now = .ok guard) :
    s.Executes { s with log := (s.written c).2, guard } c now (s.written c).1 response where
  unrecorded := admits.unrecorded
  current := admits.current
  responds := responds
  drafts := Log.map_draft_number _ _ _ _
  aggregate e he := Log.aggregate_of_mem_number he
  ids := Log.map_id_number _ _ _ _
  seqs := by
    rw [admits.current]
    exact Log.map_seq_number _ _ _ _
  log := Log.toList_extend _ _ _
  history a := by
    rw [written, Log.history_extend ordered]
    by_cases ha : a = c.aggregate
    · rw [if_pos ha, if_pos ha, ha]
    · rw [if_neg ha, if_neg ha]
  recorded := by
    rw [Guard.lookup_record recorded, if_pos rfl, admits.unrecorded]
    rfl
  others k hk := by rw [Guard.lookup_record recorded, if_neg hk]
  policy := rfl
  alive := rfl

/-- A command whose code does not crash is executed, or the store stays as it is. -/
theorem executes_or_unchanged (ordered : s.log.Ordered) (now : Instant)
    (calm : (Operation.commit c now).Calm) :
    (∃ events response, (s.commit c now).1 = .ok (.committed events response) ∧
      s.Executes (s.commit c now).2 c now events response) ∨
    ((∃ response, (s.commit c now).1 = .ok (.replayed response)) ∨
      ∃ e, (s.commit c now).1 = .error (.failed e)) ∧ (s.commit c now).2 = s := by
  rcases commit_cases s c now with
    ⟨e, h⟩ | ⟨first, _, h⟩ | ⟨admits, response, guard, hrespond, hrecord, h⟩ | ⟨_, stop, hstop, _⟩
  · rw [h]
    exact Or.inr ⟨Or.inr ⟨e, rfl⟩, rfl⟩
  · rw [h]
    exact Or.inr ⟨Or.inl ⟨first, rfl⟩, rfl⟩
  · rw [h]
    exact Or.inl ⟨_, response, rfl, executes_of_admits ordered admits hrespond hrecord⟩
  · obtain ⟨response, hresponse⟩ := calm (s.written c).1
    rw [hstop] at hresponse
    cases hresponse

/-- **A command is one step**: executed as a whole or without effect, and not both. When it is to be
executed, keeping its response does not fail, which is the last thing that could leave events
without an answer. -/
theorem atomic_commit (policy : Policy) (ops : List Operation) {c : Command}
    (calm : ∀ committed, ∃ response, c.respond committed = .ok response) (now : Instant) :
    let s := (empty policy).after ops
    Xor
      (∃ events response, (s.commit c now).1 = .ok (.committed events response) ∧
        s.Executes (s.commit c now).2 c now events response)
      (((∃ response, (s.commit c now).1 = .ok (.replayed response)) ∨
        ∃ e, (s.commit c now).1 = .error (.failed e)) ∧ (s.commit c now).2 = s) ∧
    ∀ committed log, s.guard.precheck c.key c.hash = .ok none →
      s.log.append c.aggregate c.expected c.drafts = .ok (committed, log) →
        ∀ response, ∃ guard, s.guard.record c.key c.hash response now = .ok guard := by
  intro s
  have hordered : s.log.Ordered := ordered_after Log.ordered_empty ops
  refine ⟨?_, fun _ _ hprecheck _ response => record_of_precheck hprecheck response now⟩
  have hcases := executes_or_unchanged (c := c) hordered now calm
  rcases hcases with hexecuted | hunchanged
  · refine Or.inl ⟨hexecuted, ?_⟩
    obtain ⟨events, response, hanswer, _⟩ := hexecuted
    rintro ⟨⟨first, hreplayed⟩ | ⟨e, herror⟩, _⟩
    · rw [hanswer] at hreplayed
      cases hreplayed
    · rw [hanswer] at herror
      cases herror
  · refine Or.inr ⟨hunchanged, ?_⟩
    rintro ⟨events, response, hanswer, _⟩
    rcases hunchanged with ⟨⟨first, hreplayed⟩ | ⟨e, herror⟩, _⟩
    · rw [hreplayed] at hanswer
      cases hanswer
    · rw [herror] at hanswer
      cases hanswer

theorem atomic_commit_payment :
    let s := (empty .standard).after (Sample.quarter.take 3)
    (∀ committed, ∃ response, Sample.payment.respond committed = .ok response) ∧
      ∃ events response,
        (s.commit Sample.payment Sample.noon).1 = .ok (.committed events response) ∧
        s.Executes (s.commit Sample.payment Sample.noon).2 Sample.payment Sample.noon
          events response := by
  intro s
  have hcalm : ∀ committed, ∃ response, Sample.payment.respond committed = .ok response :=
    fun _ => ⟨⟨200, none⟩, rfl⟩
  have hgrows : (s.commit Sample.payment Sample.noon).2.log.head ≠ s.log.head := by decide +kernel
  refine ⟨hcalm, ?_⟩
  rcases (atomic_commit .standard (Sample.quarter.take 3) hcalm Sample.noon).1 with
    hexecuted | hunchanged
  · exact hexecuted.1
  · exact absurd (congrArg (·.log.head) hunchanged.1.2) hgrows

end Store

end Journal
