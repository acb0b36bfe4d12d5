import Journal.Proofs.Store.Operation

/-!
# A store's log is gapless and grows only

What a client of a store can rely on, whatever it and everybody else have done before: positions
count the events, numbers count the events of an aggregate, the history of an aggregate is what a
look through the whole log would find, and what was committed once is never touched again.

None of it depends on how an operation ends. A refused append, a replayed command and a released
reservation leave the log as it is, and everything else is `Log.extend`; so the whole result is
`Log.Ordered`, carried along a run by `ordered_after` and read off the store's answers here.
-/

namespace Journal

namespace Store

/-- What a store shows of its log has no gap and no double. The event at a place of the log, counted
from zero, has the position one past it; and the history of an aggregate is the log without the
events of others, and counts from one to the latest number. -/
structure Gapless (s : Store) : Prop where
  ids : ∀ i e, s.log.toList[i]? = some e → e.id = i + 1
  head : s.head = .ok s.log.toList.length
  history : ∀ a, ∃ latest : Nat,
    s.history a = .ok (s.log.toList.filter fun e => e.aggregate = a) ∧
    (s.log.toList.filter fun e => e.aggregate = a).map (·.seq) = List.range' 1 latest ∧
    s.latest a = .ok latest

theorem gapless_of_ordered {s : Store} (h : s.log.Ordered) (alive : s.poisoned = false) :
    s.Gapless where
  ids _ _ he := h.id_of_getElem? he
  head := by simp [Store.head, look, alive, Log.length_toList]
  history a := by
    refine ⟨s.log.latest a, ?_, h.seqs a, ?_⟩
    · rw [Store.history, look, alive, h.history a]
      rfl
    · simp [Store.latest, look, alive]

/-- **Every reachable store is gapless, and its log is the beginning of every later one.** No
operation crashes, as a store that has met a crash shows nothing. -/
theorem gapless_after (policy : Policy) {ops : List Operation} (calm : ∀ op ∈ ops, op.Calm)
    (more : List Operation) :
    ((empty policy).after ops).Gapless ∧
      ((empty policy).after ops).log.toList <+:
      (((empty policy).after ops).after more).log.toList := by
  have hordered : ((empty policy).after ops).log.Ordered := ordered_after Log.ordered_empty ops
  have halive : ((empty policy).after ops).poisoned = false := alive_after rfl calm
  exact ⟨gapless_of_ordered hordered halive, prefix_after _ more⟩

/-- The quarter's log has four events, and is gapless. -/
theorem gapless_quarter :
    ((empty .standard).after Sample.quarter).log.toList.map (·.id) = [1, 2, 3, 4] ∧
    (∀ op ∈ Sample.quarter, op.Calm) ∧
      ((empty .standard).after Sample.quarter).Gapless ∧
      ((empty .standard).after Sample.quarter).log.toList <+:
        (((empty .standard).after Sample.quarter).after Sample.quarter).log.toList :=
  ⟨by decide +kernel, Sample.calm_quarter,
    gapless_after .standard Sample.calm_quarter Sample.quarter⟩

end Store

end Journal
