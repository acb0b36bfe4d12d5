import Journal.Proofs.Log.Order
import Journal.Proofs.Read.Scope

/-!
# Stretches of the log

A reader goes through the log in stretches: `Log.between` has the events past one position and up to
another. Stretches that meet can be put together (`between_append`), and a stretch that ends within
the log is the same in every later log (`between_of_prefix`), which is all that a reader needs to
know about writers.

**A page is the wanted part of the stretch that it moves over** (`pageOf_page`). The position to go
on from is chosen in two ways, the last event of a full page and otherwise the head of the log, and
for either the statement is the same.
-/

namespace Journal

namespace Log

def between (l : Log) (past upTo : EventId) : List Event :=
  l.toList.filter fun e => decide (past < e.id ∧ e.id ≤ upTo)

theorem mem_between {l : Log} {past upTo : EventId} {e : Event} :
    e ∈ l.between past upTo ↔ e ∈ l.toList ∧ past < e.id ∧ e.id ≤ upTo := by
  simp [between]

theorem pairwise_between {l : Log} (h : l.Ordered) (past upTo : EventId) :
    (l.between past upTo).Pairwise (fun d e => d.id < e.id) :=
  h.pairwise_id.filter _

@[simp] theorem between_self (l : Log) (p : EventId) : l.between p p = [] := by
  rw [between, List.filter_eq_nil_iff]
  intro e _ he
  have := of_decide_eq_true he
  lia

/-- Among events in ascending order, those up to a position come before those past it. -/
theorem filter_split {es : List Event} (h : es.Pairwise (fun d e => d.id < e.id)) (p : EventId) :
    es = es.filter (fun e => decide (e.id ≤ p)) ++ es.filter (fun e => decide (p < e.id)) := by
  induction es with
  | nil => rfl
  | cons e rest ih =>
    have hrest := List.pairwise_cons.mp h
    by_cases he : e.id ≤ p
    · have hnot : ¬ p < e.id := by lia
      simpa [he, hnot] using ih hrest.2
    · -- All that follow the first event past the position are past it too.
      have hpast : p < e.id := by lia
      have hall : ∀ d ∈ rest, p < d.id := by
        intro d hd
        have := hrest.1 d hd
        lia
      have hnone : rest.filter (fun e => decide (e.id ≤ p)) = [] := by
        rw [List.filter_eq_nil_iff]
        intro d hd hle
        have := hall d hd
        have := of_decide_eq_true hle
        lia
      have hsame : rest.filter (fun e => decide (p < e.id)) = rest := by
        rw [List.filter_eq_self]
        intro d hd
        exact decide_eq_true (hall d hd)
      simp [he, hpast, hnone, hsame]

theorem between_append {l : Log} (h : l.Ordered) {p q r : EventId} (hpq : p ≤ q) (hqr : q ≤ r) :
    l.between p q ++ l.between q r = l.between p r := by
  have hsplit := filter_split (pairwise_between h p r) q
  rw [hsplit]
  congr 1
  · rw [between, between, List.filter_filter]
    refine List.filter_congr fun e _ => ?_
    rw [← Bool.decide_and]
    exact decide_eq_decide.mpr (by lia)
  · rw [between, between, List.filter_filter]
    refine List.filter_congr fun e _ => ?_
    rw [← Bool.decide_and]
    exact decide_eq_decide.mpr (by lia)

/-- A stretch that ends within a log is the same in every log that the first one is the beginning
of. -/
theorem between_of_prefix {l m : Log} (hm : m.Ordered) (hpre : l.toList <+: m.toList)
    {past upTo : EventId} (hup : upTo ≤ l.head) : m.between past upTo = l.between past upTo := by
  obtain ⟨more, hmore⟩ := hpre
  have hnone : more.filter (fun e => decide (past < e.id ∧ e.id ≤ upTo)) = [] := by
    rw [List.filter_eq_nil_iff]
    intro e he hin
    obtain ⟨i, hi⟩ := List.mem_iff_getElem?.mp he
    have hplace : m.toList[l.toList.length + i]? = some e := by
      rw [← hmore, List.getElem?_append_right (Nat.le_add_right _ _), Nat.add_sub_cancel_left]
      exact hi
    have hid := hm.id_of_getElem? hplace
    have hbound := of_decide_eq_true hin
    rw [length_toList] at hid
    lia
  rw [between, between, ← hmore, List.filter_append, hnone, List.append_nil]

theorem nodup_of_ascending {es : List Event} (h : es.Pairwise (fun d e => d.id < e.id)) :
    es.Nodup := by
  refine h.imp fun hlt heq => ?_
  rw [heq] at hlt
  exact Nat.lt_irrefl _ hlt

/-- Events in ascending order are determined by which of them there are. -/
theorem eq_of_ascending {ds es : List Event} (hd : ds.Pairwise (fun d e => d.id < e.id))
    (he : es.Pairwise (fun d e => d.id < e.id)) (h : ∀ e, e ∈ ds ↔ e ∈ es) : ds = es := by
  have hperm : ds.Perm es :=
    (List.perm_ext_iff_of_nodup (nodup_of_ascending hd) (nodup_of_ascending he)).mpr h
  refine hperm.eq_of_pairwise (fun d e _ _ hde hed => ?_) hd he
  exact absurd (Nat.lt_trans hde hed) (Nat.lt_irrefl _)

/-- A selected event comes next after a position when no other one is between. -/
theorem filter_between_next {l : Log} (h : l.Ordered) {selects : Event → Bool} {p : EventId}
    {e : Event} (he : e ∈ l.toList) (hsel : selects e = true) (hlt : p < e.id)
    (hbefore : ∀ d ∈ l.toList, selects d = true → d.id < e.id → d.id ≤ p) :
    (l.between 0 e.id).filter selects = (l.between 0 p).filter selects ++ [e] := by
  -- The part past the position is ascending and has this event for its only member.
  have hone : (l.between p e.id).filter selects = [e] := by
    refine eq_of_ascending ((pairwise_between h p e.id).filter _)
      (List.pairwise_singleton _ e) fun d => ?_
    rw [List.mem_filter, mem_between, List.mem_singleton]
    constructor
    · rintro ⟨⟨hd, hpast, hle⟩, hdsel⟩
      have hid : d.id = e.id := by
        rcases Nat.lt_or_ge d.id e.id with hlt' | hge
        · exact absurd (hbefore d hd hdsel hlt') (Nat.not_le_of_lt hpast)
        · exact Nat.le_antisymm hle hge
      exact h.eq_of_id hd he hid
    · rintro rfl
      exact ⟨⟨he, hlt, Nat.le_refl _⟩, hsel⟩
  rw [← between_append h (Nat.zero_le p) (Nat.le_of_lt hlt), List.filter_append, hone]

/-! ## Pages -/

def accepted (l : Log) (a : Access) : List Event := l.toList.filter a.accepts

theorem pairwise_accepted {l : Log} (h : l.Ordered) (a : Access) :
    (l.accepted a).Pairwise (fun d e => d.id < e.id) :=
  h.pairwise_id.filter _

theorem mem_accepted {l : Log} {a : Access} {e : Event} :
    e ∈ l.accepted a ↔ e ∈ l.toList ∧ a.after < e.id ∧ a.wants e = true := by
  rw [accepted, List.mem_filter, Access.accepts_eq, Bool.and_eq_true, decide_eq_true_iff]

/-- What a page passes over at the start of the log it could not accept. -/
theorem filter_drop_accepts {l : Log} (h : l.Ordered) (a : Access) :
    (l.toList.drop a.after).filter a.accepts = l.accepted a := by
  have hnone : (l.toList.take a.after).filter a.accepts = [] := by
    rw [List.filter_eq_nil_iff]
    intro e he hacc
    obtain ⟨i, hi⟩ := List.mem_iff_getElem?.mp he
    rw [List.getElem?_take] at hi
    have hlt : i < a.after := by
      by_contra hge
      rw [if_neg hge] at hi
      cases hi
    rw [if_pos hlt] at hi
    have hid := h.id_of_getElem? hi
    rw [Access.accepts_eq, Bool.and_eq_true, decide_eq_true_iff] at hacc
    lia
  calc (l.toList.drop a.after).filter a.accepts
      = (l.toList.take a.after).filter a.accepts ++ (l.toList.drop a.after).filter a.accepts := by
        rw [hnone, List.nil_append]
    _ = l.accepted a := by rw [← List.filter_append, List.take_append_drop, accepted]

theorem filter_between_wants (l : Log) (a : Access) (upTo : EventId) :
    (l.between a.after upTo).filter a.wants = (l.accepted a).filter fun e =>
    decide (e.id ≤ upTo) := by
  rw [between, accepted, List.filter_filter, List.filter_filter]
  refine List.filter_congr fun e _ => ?_
  rw [Access.accepts_eq]
  cases a.wants e <;> simp [Bool.and_comm]

theorem take_eq_filter {es : List Event} (h : es.Pairwise (fun d e => d.id < e.id)) {n : Nat}
    {last : Event} (hlast : (es.take n).getLast? = some last) :
    es.take n = es.filter (fun e => decide (e.id ≤ last.id)) ∧ ∀ e ∈ es.drop n, last.id < e.id := by
  have hboth : (es.take n ++ es.drop n).Pairwise (fun d e => d.id < e.id) := by
    rw [List.take_append_drop]
    exact h
  obtain ⟨htake, _, hcross⟩ := List.pairwise_append.mp hboth
  have hmem : last ∈ es.take n := List.mem_of_getLast? hlast
  have hlater : ∀ e ∈ es.drop n, last.id < e.id := fun e he => hcross last hmem e he
  refine ⟨?_, hlater⟩
  have hearlier : ∀ e ∈ es.take n, e.id ≤ last.id := by
    intro e he
    obtain ⟨front, hfront⟩ := List.getLast?_eq_some_iff.mp hlast
    rw [hfront] at he htake
    rcases List.mem_append.mp he with he | he
    · have := (List.pairwise_append.mp htake).2.2 e he last (List.mem_singleton_self _)
      lia
    · exact Nat.le_of_eq (congrArg Event.id (List.mem_singleton.mp he))
  calc es.take n
      = (es.take n).filter (fun e => decide (e.id ≤ last.id)) ++
          (es.drop n).filter (fun e => decide (e.id ≤ last.id)) := by
        rw [List.filter_eq_self.mpr fun e he => decide_eq_true (hearlier e he),
          List.filter_eq_nil_iff.mpr, List.append_nil]
        intro e he hle
        have := hlater e he
        have := of_decide_eq_true hle
        lia
    _ = es.filter (fun e => decide (e.id ≤ last.id)) := by
        rw [← List.filter_append, List.take_append_drop]

/-- The page is what a reader past a position, who selects some of the events, can be given of the
log. Where to go on is part of it: the reader has seen everything that it selects up to there, and
loses nothing by never coming back. -/
structure PageOf (l : Log) (selects : Event → Bool) (past : EventId) (limit : Nat)
    (page : Page) : Prop where
  events : page.events = (l.between past page.next).filter selects
  length_le : page.events.length ≤ limit
  past_le : past ≤ page.next
  next_le : page.next ≤ max l.head past
  hasMore_iff : page.hasMore = true ↔ ∃ e ∈ l.toList, selects e = true ∧ page.next < e.id

/-- **A page is the wanted part of the stretch that it moves over.** -/
theorem pageOf_page {l : Log} (h : l.Ordered) (a : Access) (hlimit : 1 ≤ a.limit) :
    l.PageOf a.wants a.after a.limit (l.page a) := by
  have hasc := pairwise_accepted h a
  have hpage : l.page a = a.page ((l.accepted a).take (a.limit + 1)) l.head := by
    rw [page, filter_drop_accepts h]
  have htake : ((l.accepted a).take (a.limit + 1)).take a.limit = (l.accepted a).take a.limit := by
    rw [List.take_take, Nat.min_eq_left (Nat.le_succ _)]
  by_cases hmore : a.limit < (l.accepted a).length
  · -- A full page: it ends at its last event, and the look-ahead found one past it.
    obtain ⟨last, hlast⟩ : ∃ last, ((l.accepted a).take a.limit).getLast? = some last := by
      refine ⟨_, List.getLast?_eq_some_getLast ?_⟩
      intro hnil
      have := congrArg List.length hnil
      rw [List.length_take, List.length_nil] at this
      omega
    have hlook : a.limit < ((l.accepted a).take (a.limit + 1)).length := by
      rw [List.length_take]
      omega
    have hp : l.page a = ⟨(l.accepted a).take a.limit, last.id, true⟩ := by
      rw [hpage, Access.page, htake, if_pos hlook, hlast]
      rfl
    obtain ⟨hfirst, hlater⟩ := take_eq_filter hasc hlast
    have hlastMem := mem_accepted.mp (List.mem_of_mem_take (List.mem_of_getLast? hlast))
    rw [hp]
    refine ⟨?_, List.length_take_le _ _, ?_, ?_, ?_⟩
    · rw [filter_between_wants]
      exact hfirst
    · exact Nat.le_of_lt hlastMem.2.1
    · exact Nat.le_trans (h.id_bounds hlastMem.1).2 (Nat.le_max_left _ _)
    · refine ⟨fun _ => ?_, fun _ => rfl⟩
      have hnext : (l.accepted a)[a.limit] ∈ (l.accepted a).drop a.limit := by
        rw [List.drop_eq_getElem_cons hmore]
        exact List.mem_cons_self
      have hmem := mem_accepted.mp (List.getElem_mem hmore)
      exact ⟨_, hmem.1, hmem.2.2, hlater _ hnext⟩
  · -- All that is accepted is on the page, and the reader goes on after the head.
    have hall : (l.accepted a).take a.limit = l.accepted a := List.take_of_length_le (by omega)
    have hlook : ¬ a.limit < ((l.accepted a).take (a.limit + 1)).length := by
      rw [List.length_take]
      omega
    have hp : l.page a = ⟨l.accepted a, max l.head a.after, false⟩ := by
      rw [hpage, Access.page, htake, if_neg hlook, hall]
    rw [hp]
    refine ⟨?_, ?_, Nat.le_max_right _ _, Nat.le_refl _, ?_⟩
    · rw [filter_between_wants, eq_comm, List.filter_eq_self]
      intro e he
      have hbound := (h.id_bounds (mem_accepted.mp he).1).2
      exact decide_eq_true (Nat.le_trans hbound (Nat.le_max_left _ _))
    · exact Nat.le_of_not_lt hmore
    · refine ⟨fun hfalse => (Bool.false_ne_true hfalse).elim, ?_⟩
      rintro ⟨e, he, _, hpast⟩
      have hbound := (h.id_bounds he).2
      have := Nat.lt_of_lt_of_le hpast (Nat.le_trans hbound (Nat.le_max_left l.head a.after))
      exact absurd this (Nat.lt_irrefl _)

end Log

end Journal
