import Journal.Proofs.Log.Stretch
import Journal.Proofs.Store.Operation

/-!
# Paging through a log that grows

A reader asks for a page, goes on from where the page says, and does so again, while others write.
`Reader` is what the reader has in hand, the cursor and the events so far, together with the store
that everybody shares; a `Turn` is either a page for the reader or an operation of somebody else's,
and `follow` plays turns one after the other.

**Nothing is lost and nothing comes twice**: at any moment the reader holds the wanted events of the
log up to its cursor, in order. The invariant is `Reader.Holds`, and the reason why it survives the
writers is that the cursor never gets ahead of the log unless it was ahead from the start: then, and
only then, the stretch behind it is empty, and it stays empty whatever is written below it.
-/

namespace Journal

namespace Paging

structure Reader where
  store : Store
  cursor : EventId
  seen : List Event

/-- What happens next: the reader takes a page, or somebody does something else with the store. -/
inductive Turn
  | page (limit : Option Nat)
  | other (op : Store.Operation)

def Turn.Calm : Turn → Prop
  | .page _ => True
  | .other op => op.Calm

def Reader.turn (f : Filter) (scope : Scope) (r : Reader) : Turn → Except StoreError Reader
  | .page limit => do
    let page ← r.store.read r.cursor limit f scope
    return { r with cursor := page.next, seen := r.seen ++ page.events }
  | .other op => return { r with store := (op.perform r.store).2 }

def Reader.follow (f : Filter) (scope : Scope) (r : Reader) (turns : List Turn) :
    Except StoreError Reader :=
  turns.foldlM (fun r t => r.turn f scope t) r

variable {f : Filter} {scope : Scope} {p : Policy} {start : EventId}

/-! ## A page from a store -/

/-- The answer to a read: the refusal comes first, and does not depend on the log. -/
theorem read_answer (s : Store) (past : EventId) (limit : Option Nat) (f : Filter) (scope : Scope) :
    s.read past limit f scope = match Access.refusal? f s.policy scope with
      | some d => .error (.forbidden d.message)
      | none => s.look (·.log.page ⟨past, pageSize limit, Access.narrowed f scope,
          Access.hidden s.policy scope⟩) := by
  rw [Store.read, Access.authorize_eq]
  cases Access.refusal? f s.policy scope with
  | some d => rfl
  | none => rfl

theorem read_eq {s : Store} (alive : s.poisoned = false)
    (h : Access.refusal? f s.policy scope = none) (past : EventId) (limit : Option Nat) :
    s.read past limit f scope =
      .ok (s.log.page ⟨past, pageSize limit, Access.narrowed f scope,
        Access.hidden s.policy scope⟩) := by
  rw [read_answer, h]
  simp [Store.look, alive]

theorem one_le_pageSize (limit : Option Nat) : 1 ≤ pageSize limit := Nat.le_max_left _ _

theorem page_of_read {s : Store} {past : EventId} {limit : Option Nat} {page : Page}
    (hread : s.read past limit f scope = .ok page) :
    Access.refusal? f s.policy scope = none ∧
      page = s.log.page ⟨past, pageSize limit, Access.narrowed f scope,
        Access.hidden s.policy scope⟩ := by
  rw [read_answer] at hread
  split at hread
  · cases hread
  · next hnone =>
    rw [Store.look] at hread
    split at hread
    · cases hread
    · exact ⟨hnone, (Except.ok.inj hread).symm⟩

/-- Whatever page a store answers with is the page of what was asked for. -/
theorem pageOf_read {s : Store} (h : s.log.Ordered) {past : EventId} {limit : Option Nat}
    {page : Page} (hread : s.read past limit f scope = .ok page) :
    s.log.PageOf (f.selects scope s.policy) past (pageSize limit) page := by
  obtain ⟨hnone, rfl⟩ := page_of_read hread
  have hpage := Log.pageOf_page h ⟨past, pageSize limit, Access.narrowed f scope,
    Access.hidden s.policy scope⟩ (one_le_pageSize limit)
  rw [Access.wants_of_refusal? hnone] at hpage
  exact hpage

/-! ## What a reader holds -/

/-- A reader that has come from `start` to its cursor holds what it selects in between. -/
structure Reader.Holds (f : Filter) (scope : Scope) (p : Policy) (start : EventId)
    (r : Reader) : Prop where
  ordered : r.store.log.Ordered
  policy : r.store.policy = p
  start_le : start ≤ r.cursor
  cursor_le : r.cursor ≤ max r.store.log.head start
  seen : r.seen = (r.store.log.between start r.cursor).filter (f.selects scope p)

namespace Reader.Holds

variable {r : Reader}

theorem other (h : r.Holds f scope p start) (op : Store.Operation) :
    Reader.Holds f scope p start { r with store := (op.perform r.store).2 } := by
  have hordered : (r.store.after [op]).log.Ordered := Store.ordered_after h.ordered [op]
  have hpre := Store.prefix_after r.store [op]
  have hgrown : r.store.log.head ≤ (r.store.after [op]).log.head := hpre.length_le
  refine ⟨hordered, (Store.policy_after r.store [op]).trans h.policy, h.start_le, ?_, ?_⟩
  · exact Nat.le_trans h.cursor_le (Nat.max_le.mpr ⟨Nat.le_trans hgrown (Nat.le_max_left _ _),
      Nat.le_max_right _ _⟩)
  · rcases Nat.lt_or_ge r.store.log.head r.cursor with hbeyond | hin
    · -- A cursor beyond the log has not moved, and there is nothing between it and itself.
      have hstart : r.cursor = start := by
        have := h.cursor_le
        have := h.start_le
        lia
      have hseen := h.seen
      rw [hstart, Log.between_self, List.filter_nil] at hseen
      rw [hstart, Log.between_self, List.filter_nil]
      exact hseen
    · exact h.seen.trans (congrArg _ (Log.between_of_prefix hordered hpre hin).symm)

theorem page (h : r.Holds f scope p start) {limit : Option Nat} {page : Page}
    (hread : r.store.read r.cursor limit f scope = .ok page) :
    Reader.Holds f scope p start { r with cursor := page.next, seen := r.seen ++ page.events } := by
  have hpage := pageOf_read h.ordered hread
  rw [h.policy] at hpage
  refine ⟨h.ordered, h.policy, Nat.le_trans h.start_le hpage.past_le, ?_, ?_⟩
  · refine Nat.le_trans hpage.next_le (Nat.max_le.mpr ⟨Nat.le_max_left _ _, h.cursor_le⟩)
  · calc r.seen ++ page.events
        = (r.store.log.between start r.cursor ++ r.store.log.between r.cursor page.next).filter
            (f.selects scope p) := by rw [List.filter_append, ← h.seen, ← hpage.events]
      _ = (r.store.log.between start page.next).filter (f.selects scope p) := by
          rw [Log.between_append h.ordered h.start_le hpage.past_le]

theorem turn (h : r.Holds f scope p start) {t : Turn} {r' : Reader}
    (hgo : r.turn f scope t = .ok r') :
    r'.Holds f scope p start := by
  cases t with
  | page limit =>
    rw [Reader.turn] at hgo
    cases hread : r.store.read r.cursor limit f scope with
    | error e =>
      rw [hread] at hgo
      cases hgo
    | ok page =>
      rw [hread] at hgo
      cases hgo
      exact h.page hread
  | other op =>
    cases hgo
    exact h.other op

theorem follow (h : r.Holds f scope p start) {turns : List Turn} {r' : Reader}
    (hgo : r.follow f scope turns = .ok r') : r'.Holds f scope p start := by
  induction turns generalizing r with
  | nil =>
    cases hgo
    exact h
  | cons t turns ih =>
    rw [Reader.follow, List.foldlM_cons] at hgo
    cases hturn : r.turn f scope t with
    | error e =>
      rw [hturn] at hgo
      cases hgo
    | ok next =>
      rw [hturn] at hgo
      exact ih (h.turn hturn) hgo

end Reader.Holds

/-- A reader that is granted a page is refused none, as long as nothing crashes. -/
theorem Reader.follow_of_calm {r : Reader} (granted : Access.refusal? f r.store.policy scope = none)
    (alive : r.store.poisoned = false) {turns : List Turn} (calm : ∀ t ∈ turns, t.Calm) :
    ∃ r', r.follow f scope turns = .ok r' ∧
      ∀ limit, ∃ page, r'.store.read r'.cursor limit f scope = .ok page := by
  induction turns generalizing r with
  | nil => exact ⟨r, rfl, fun limit => ⟨_, read_eq alive granted r.cursor limit⟩⟩
  | cons t turns ih =>
    have hrest : ∀ t ∈ turns, t.Calm := fun t ht => calm t (List.mem_cons_of_mem _ ht)
    cases t with
    | page limit =>
      -- The refusal does not depend on the cursor, so that what was granted at the start is granted
      -- now.
      obtain ⟨page, hread⟩ : ∃ page, r.store.read r.cursor limit f scope = .ok page :=
        ⟨_, read_eq alive granted r.cursor limit⟩
      obtain ⟨r', hgo, hnext⟩ := @ih ⟨r.store, page.next, r.seen ++ page.events⟩ granted alive hrest
      refine ⟨r', ?_, hnext⟩
      simp only [Reader.follow, List.foldlM_cons, Reader.turn, hread]
      exact hgo
    | other op =>
      have hcalm : ∀ o ∈ [op], o.Calm := by
        intro o ho
        rw [List.mem_singleton.mp ho]
        exact calm _ List.mem_cons_self
      have hpolicy : (r.store.after [op]).policy = r.store.policy := Store.policy_after r.store [op]
      have halive : (r.store.after [op]).poisoned = false := Store.alive_after alive hcalm
      exact @ih ⟨r.store.after [op], r.cursor, r.seen⟩ (hpolicy.symm ▸ granted) halive hrest

/-- What a reader can count on that has come from `start` to its cursor. The first three clauses are
about what it has seen, and the last about any page that it may be given next. -/
structure Reader.Complete (f : Filter) (scope : Scope) (p : Policy) (start : EventId)
    (r : Reader) : Prop where
  /-- It has seen exactly what it selects between the two, -/
  seen : r.seen = (r.store.log.between start r.cursor).filter (f.selects scope p)
  /-- in the order of the log and each event once. -/
  ascending : r.seen.Pairwise (fun d e => d.id < e.id)
  /-- The cursor has not gone back. -/
  start_le : start ≤ r.cursor
  /-- The next page, whatever its limit, does not go back, is no longer than it may be, and says
  whether the log as it is now has more. -/
  next : ∀ limit page, r.store.read r.cursor limit f scope = .ok page →
    r.cursor ≤ page.next ∧
    page.events.length ≤ pageSize limit ∧
    (page.hasMore = true ↔ ∃ e ∈ r.store.log.toList, f.selects scope p e = true ∧ page.next < e.id)

theorem Reader.Holds.complete {r : Reader} (h : r.Holds f scope p start) :
    r.Complete f scope p start where
  seen := h.seen
  ascending := by
    rw [h.seen]
    exact (Log.pairwise_between h.ordered start r.cursor).filter _
  start_le := h.start_le
  next limit page hread := by
    have hpage := pageOf_read h.ordered hread
    rw [h.policy] at hpage
    exact ⟨hpage.past_le, hpage.length_le, hpage.hasMore_iff⟩

/-- **Paging loses nothing and repeats nothing**, wherever it starts, whatever the limits and
whatever is written between the pages; and a reader that is granted a page is given every page it
asks for, unless code that came with a command crashes. -/
theorem complete_of_follow (policy : Policy) (setup : List Store.Operation) {after : EventId}
    {asked : Option Nat} {access : Access}
    (granted : Access.authorize after asked f scope policy = .ok access) (start : EventId)
    (turns : List Turn) :
    (∀ r, Reader.follow f scope ⟨(Store.empty policy).after setup, start, []⟩ turns = .ok r →
      r.Complete f scope policy start) ∧
    ((∀ op ∈ setup, op.Calm) → (∀ t ∈ turns, t.Calm) →
      ∃ r, Reader.follow f scope ⟨(Store.empty policy).after setup, start, []⟩ turns = .ok r ∧
        ∀ limit, ∃ page, r.store.read r.cursor limit f scope = .ok page) := by
  have hpolicy : ((Store.empty policy).after setup).policy = policy := Store.policy_after _ setup
  have hstart : Reader.Holds f scope policy start ⟨(Store.empty policy).after setup,
      start, []⟩ := by
    refine ⟨Store.ordered_after Log.ordered_empty setup, hpolicy, Nat.le_refl _,
      Nat.le_max_right _ _, ?_⟩
    rw [Log.between_self, List.filter_nil]
  refine ⟨fun r hgo => (hstart.follow hgo).complete, fun calm others => ?_⟩
  have hnone := Access.refusal?_of_authorize granted
  exact Reader.follow_of_calm (hpolicy.symm ▸ hnone) (Store.alive_after rfl calm) others

/-- Pages of one event and of the usual size, with a posting in between. -/
def visit : List Turn :=
  [.page (some 1), .other (.append Sample.savings 1 [Sample.posting]), .page none]

theorem calm_visit : ∀ t ∈ visit, t.Calm := by
  intro t ht
  simp only [visit, List.mem_cons, List.not_mem_nil, or_false] at ht
  rcases ht with rfl | rfl | rfl <;> trivial

/-- A tenant that has seen the first event of the quarter sees the rest, and a posting made
meanwhile. -/
theorem complete_visit :
    Access.authorize 0 none .all (.org Sample.org) .standard =
        .ok ⟨0, 100, ⟨some Sample.org, none, none, none⟩, Policy.standard.kinds⟩ ∧
      (∀ op ∈ Sample.quarter, op.Calm) ∧ (∀ t ∈ visit, t.Calm) ∧
      ∃ r, Reader.follow .all (.org Sample.org) ⟨(Store.empty .standard).after Sample.quarter, 1,
        []⟩ visit = .ok r ∧ r.Complete .all (.org Sample.org) .standard 1 := by
  have hgranted : Access.authorize 0 none .all (.org Sample.org) .standard =
      .ok ⟨0, 100, ⟨some Sample.org, none, none, none⟩, Policy.standard.kinds⟩ := rfl
  obtain ⟨hcomplete, hgo⟩ := complete_of_follow .standard Sample.quarter hgranted 1 visit
  obtain ⟨r, hr, _⟩ := hgo Sample.calm_quarter calm_visit
  exact ⟨hgranted, Sample.calm_quarter, calm_visit, r, hr, hcomplete r hr⟩

end Paging

end Journal
