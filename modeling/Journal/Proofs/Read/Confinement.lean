import Journal.Proofs.Read.Paging

/-!
# A reader learns nothing of what is hidden

Two logs may be very different and yet look the same to a reader: `Log.Alike` asks for the same head
and the same visible events at the same positions, and for nothing else. **`read_eq_of_alike` says
that no read tells such logs apart**, by the events it returns or by anything that goes with them:
whether there is more, where to go on, and why a read is denied.

The two places where a page could give something away are the look-ahead and the position to go on
from. Both are computed from the events that the access accepts, and `accepted_eq_of_alike` is the
whole argument: an access accepts only what its scope sees, and events in ascending order are
determined by which of them there are.

The head of the log is not hidden, and a reader that has caught up is told it. So the logs have to
agree on it.
-/

namespace Journal

/-! ## Logs that look alike -/

/-- The logs have the same head, and a reader of the scope sees the same events in both. Whatever is
hidden may differ, and there may be more of it in one than in the other. -/
structure Log.Alike (p : Policy) (scope : Scope) (l m : Log) : Prop where
  head : l.head = m.head
  shown : ∀ e, scope.sees p e = true → (e ∈ l.toList ↔ e ∈ m.toList)

namespace Paging

variable {f : Filter} {scope : Scope} {p : Policy} {l m : Log} {a : Access}

theorem alike_of_filter (hhead : l.head = m.head)
    (hshown : l.toList.filter (scope.sees p) = m.toList.filter (scope.sees p)) :
    l.Alike p scope m := by
  refine ⟨hhead, fun e hsees => ?_⟩
  have hmem : e ∈ l.toList.filter (scope.sees p) ↔ e ∈ m.toList.filter (scope.sees p) := by
    rw [hshown]
  simpa [List.mem_filter, hsees] using hmem

/-- An access that wants only what the scope sees accepts the same events in logs that look
alike. -/
theorem accepted_eq_of_alike (hl : l.Ordered) (hm : m.Ordered) (h : l.Alike p scope m)
    (hwants : ∀ e, a.wants e = true → scope.sees p e = true) : l.accepted a = m.accepted a := by
  refine Log.eq_of_ascending (Log.pairwise_accepted hl a) (Log.pairwise_accepted hm a) fun e => ?_
  rw [Log.mem_accepted, Log.mem_accepted]
  constructor
  · rintro ⟨he, hpast, hw⟩
    exact ⟨(h.shown e (hwants e hw)).mp he, hpast, hw⟩
  · rintro ⟨he, hpast, hw⟩
    exact ⟨(h.shown e (hwants e hw)).mpr he, hpast, hw⟩

theorem page_eq_of_alike (hl : l.Ordered) (hm : m.Ordered) (h : l.Alike p scope m)
    (hwants : ∀ e, a.wants e = true → scope.sees p e = true) : l.page a = m.page a := by
  rw [Log.page, Log.page, Log.filter_drop_accepts hl, Log.filter_drop_accepts hm,
    accepted_eq_of_alike hl hm h hwants, h.head]

/-! ## Reads -/

/-- What a read shows a reader of the scope who might have either of two stores before it. -/
structure Confined (f : Filter) (scope : Scope) (p : Policy) (past : EventId) (limit : Option Nat)
    (s t : Store) :
    Prop where
  /-- Not which of the two it is, -/
  same : s.read past limit f scope = t.read past limit f scope
  /-- but a page, or why it is denied, -/
  answered : s.poisoned = false → (∃ page, s.read past limit f scope = .ok page) ∨
    ∃ reason, s.read past limit f scope = .error (.forbidden reason)
  /-- and no event that the scope does not see. -/
  visible : ∀ page, s.read past limit f scope = .ok page → ∀ e ∈ page.events, scope.sees p e = true

variable {s t : Store} {past : EventId} {limit : Option Nat}

theorem same_of_alike (hs : s.log.Ordered) (ht : t.log.Ordered) (hpolicy : s.policy = t.policy)
    (hcrashed : s.poisoned = t.poisoned) (h : s.log.Alike s.policy scope t.log) :
    s.read past limit f scope = t.read past limit f scope := by
  rw [read_answer, read_answer, ← hpolicy]
  cases hr : Access.refusal? f s.policy scope with
  | some d => rfl
  | none =>
    have hpage := page_eq_of_alike
      (a := ⟨past, pageSize limit, Access.narrowed f scope, Access.hidden s.policy scope⟩)
      hs ht h fun e hwants => by
        rw [Access.wants_of_refusal? hr] at hwants
        exact Filter.sees_of_selects hwants
    simp only [Store.look, hcrashed, hpage]

theorem answered_of_alive (halive : s.poisoned = false) :
    (∃ page, s.read past limit f scope = .ok page) ∨
      ∃ reason, s.read past limit f scope = .error (.forbidden reason) := by
  rw [read_answer]
  cases Access.refusal? f s.policy scope with
  | some d => exact Or.inr ⟨d.message, rfl⟩
  | none =>
    refine Or.inl ⟨s.log.page ⟨past, pageSize limit, Access.narrowed f scope,
      Access.hidden s.policy scope⟩, ?_⟩
    simp [Store.look, halive]

theorem visible_of_read (hs : s.log.Ordered) {page : Page}
    (hread : s.read past limit f scope = .ok page) :
    ∀ e ∈ page.events, scope.sees s.policy e = true := by
  intro e he
  rw [(pageOf_read hs hread).events] at he
  exact Filter.sees_of_selects (List.mem_filter.mp he).2

/-- **Logs that look alike to a reader are read alike**, whatever is hidden in them. The stores are
reached by any operations, with the policy in common.

It is asked that both have met a crash or neither has. A crash is no part of a log, and shows in
every answer of the store: a reader is told that the store is poisoned, and learns from it that
somebody's code has crashed, which may well have been on events that are hidden. Where neither has
met one a reader is given a page, or told why it is denied (`Confined.answered`). -/
theorem read_eq_of_alike (policy : Policy) (scope : Scope) (ops others : List Store.Operation)
    (alike : ((Store.empty policy).after ops).log.Alike policy scope
      ((Store.empty policy).after others).log)
    (crashed : ((Store.empty policy).after ops).poisoned =
      ((Store.empty policy).after others).poisoned)
    (past : EventId) (limit : Option Nat) (f : Filter) :
    Confined f scope policy past limit ((Store.empty policy).after ops)
        ((Store.empty policy).after others) := by
  have hordered : ∀ ops, ((Store.empty policy).after ops).log.Ordered :=
    Store.ordered_after Log.ordered_empty
  have hpolicy : ∀ ops, ((Store.empty policy).after ops).policy = policy := Store.policy_after _
  refine ⟨?_, answered_of_alive, fun page hread => ?_⟩
  · exact same_of_alike (hordered ops) (hordered others)
      ((hpolicy ops).trans (hpolicy others).symm) crashed
      ((hpolicy ops).symm ▸ alike)
  · have hvisible := visible_of_read (hordered ops) hread
    rwa [hpolicy] at hvisible

/-! ## Two logs with different secrets -/

def machine : Aggregate := ⟨Policy.node, "n1"⟩

def foreign : Draft :=
  { Sample.posting with
    provenance := .system "teller" (some ⟨.timeOrdered 0 0 8⟩) ⟨.timeOrdered 0 0 2⟩ }

/-- Between two postings of a tenant somebody else writes an event. -/
def between (a : Aggregate) (d : Draft) : List Store.Operation :=
  [.append Sample.account 0 [Sample.posting], .append a 0 [d],
    .append Sample.account 1 [Sample.posting]]

/-- A tenant reads the same page, whether a machine or another tenant has written in between. -/
theorem read_eq_tenant :
    ((Store.empty .standard).after (between machine Sample.posting)).log.toList ≠
        ((Store.empty .standard).after (between Sample.savings foreign)).log.toList ∧
      ((Store.empty .standard).after (between machine Sample.posting)).log.Alike .standard
        (.org Sample.org) ((Store.empty .standard).after (between Sample.savings foreign)).log ∧
      ((Store.empty .standard).after (between machine Sample.posting)).poisoned =
        ((Store.empty .standard).after (between Sample.savings foreign)).poisoned ∧
      Confined .all (.org Sample.org) .standard 0 (some 1)
        ((Store.empty .standard).after (between machine Sample.posting))
        ((Store.empty .standard).after (between Sample.savings foreign)) := by
  have halike : ((Store.empty .standard).after (between machine Sample.posting)).log.Alike .standard
      (.org Sample.org) ((Store.empty .standard).after (between Sample.savings foreign)).log :=
    alike_of_filter (by decide +kernel) (by decide +kernel)
  exact ⟨by decide +kernel, halike, rfl, read_eq_of_alike .standard (.org Sample.org) _ _ halike rfl
    0 (some 1) .all⟩

end Paging

end Journal
