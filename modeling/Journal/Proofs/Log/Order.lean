import Journal.Log
import Mathlib.Data.List.Basic

/-!
# The order of a log

A log is kept three times: as the list of its events, as an index that has the places of each
aggregate's events, and as the two numbers that every event carries, its position in the whole log
and its number in its aggregate. Nothing but `Log.extend` ever writes, and it writes all three.

**`Log.Ordered` says that the three agree**, and `Ordered.extend` that an extension keeps it so. The
clause that makes this go through is the plainest one, `places_lt`: an index that points nowhere
beyond the end of the log reads the same events when the log has grown.
-/

namespace Journal

namespace Log

/-- The events of an aggregate, found by looking through the whole log. -/
def eventsOf (l : Log) (a : Aggregate) : List Event := l.toList.filter fun e => e.aggregate = a

/-- The list of events, the index by aggregate and the numbers of the events agree. Events stand at
their positions, counted from one, and the events of an aggregate are numbered without a gap; the
index points into the log and finds just these. Everything else about a log follows from the
list. -/
structure Ordered (l : Log) : Prop where
  ids : l.toList.map (·.id) = List.range' 1 l.toList.length
  seqs : ∀ a, (l.eventsOf a).map (·.seq) = List.range' 1 (l.latest a)
  history : ∀ a, l.history a = l.eventsOf a
  places_lt : ∀ a, ∀ i ∈ l.placesOf a, i < l.events.size

/-! ## Numbered drafts -/

theorem map_id_number (a : Aggregate) (id : EventId) (seq : Seq) (drafts : List Draft) :
    (number a id seq drafts).map (·.id) = List.range' id drafts.length := by
  induction drafts generalizing id seq with
  | nil => rfl
  | cons d rest ih => simp [number, ih, List.range'_succ]

theorem map_seq_number (a : Aggregate) (id : EventId) (seq : Seq) (drafts : List Draft) :
    (number a id seq drafts).map (·.seq) = List.range' seq drafts.length := by
  induction drafts generalizing id seq with
  | nil => rfl
  | cons d rest ih => simp [number, ih, List.range'_succ]

theorem length_number (a : Aggregate) (id : EventId) (seq : Seq) (drafts : List Draft) :
    (number a id seq drafts).length = drafts.length := by
  have h := congrArg List.length (map_id_number a id seq drafts)
  simpa using h

theorem map_draft_number (a : Aggregate) (id : EventId) (seq : Seq) (drafts : List Draft) :
    (number a id seq drafts).map (·.draft) = drafts := by
  induction drafts generalizing id seq with
  | nil => rfl
  | cons d rest ih => simp [number, ih]

theorem aggregate_of_mem_number {a : Aggregate} {id : EventId} {seq : Seq} {drafts : List Draft}
    {e : Event} (h : e ∈ number a id seq drafts) : e.aggregate = a := by
  induction drafts generalizing id seq with
  | nil => exact absurd h (by simp [number])
  | cons d rest ih =>
    rcases List.mem_cons.mp h with rfl | h
    · rfl
    · exact ih h

theorem filter_number (a b : Aggregate) (id : EventId) (seq : Seq) (drafts : List Draft) :
    (number a id seq drafts).filter (fun e => e.aggregate = b) =
      if b = a then number a id seq drafts else [] := by
  by_cases hb : b = a
  · rw [if_pos hb, List.filter_eq_self]
    intro e he
    simpa [hb] using aggregate_of_mem_number he
  · rw [if_neg hb, List.filter_eq_nil_iff]
    intro e he hab
    exact hb ((of_decide_eq_true hab).symm.trans (aggregate_of_mem_number he))

/-! ## What an extension does -/

theorem fst_extend (l : Log) (a : Aggregate) (drafts : List Draft) :
    (l.extend a drafts).1 = number a (l.head + 1) (l.latest a + 1) drafts := rfl

theorem toList_extend (l : Log) (a : Aggregate) (drafts : List Draft) :
    (l.extend a drafts).2.toList = l.toList ++ (l.extend a drafts).1 := by
  simp [extend, toList]

theorem events_extend (l : Log) (a : Aggregate) (drafts : List Draft) :
    (l.extend a drafts).2.events = l.events ++ (l.extend a drafts).1 := rfl

theorem placesOf_extend (l : Log) (a b : Aggregate) (drafts : List Draft) :
    (l.extend a drafts).2.placesOf b =
      if b = a then l.placesOf a ++ (List.range drafts.length).map (l.head + ·)
      else l.placesOf b := by
  by_cases hb : b = a <;> simp [extend, placesOf, Keyed.get?_insert, hb]

theorem latest_extend (l : Log) (a b : Aggregate) (drafts : List Draft) :
    (l.extend a drafts).2.latest b = if b = a then l.latest a + drafts.length else l.latest b := by
  unfold latest
  rw [placesOf_extend]
  by_cases hb : b = a
  · rw [if_pos hb, if_pos hb, ← Array.length_toList, Array.toList_appendList]
    simp
  · rw [if_neg hb, if_neg hb]

theorem eventsOf_extend (l : Log) (a b : Aggregate) (drafts : List Draft) :
    (l.extend a drafts).2.eventsOf b =
      if b = a then l.eventsOf a ++ (l.extend a drafts).1 else l.eventsOf b := by
  unfold eventsOf
  rw [toList_extend, List.filter_append, fst_extend, filter_number]
  by_cases hb : b = a <;> simp [hb]

theorem length_toList (l : Log) : l.toList.length = l.head := rfl

theorem head_extend (l : Log) (a : Aggregate) (drafts : List Draft) :
    (l.extend a drafts).2.head = l.head + drafts.length := by
  rw [← length_toList, toList_extend, List.length_append, fst_extend, length_number, length_toList]

/-! ## Places in a log that has grown -/

theorem filterMap_places_append {xs : Array Event} {places : List Nat} (ys : List Event)
    (h : ∀ i ∈ places, i < xs.size) :
    places.filterMap (fun i => (xs ++ ys)[i]?) = places.filterMap (fun i => xs[i]?) := by
  refine List.filterMap_congr fun i hi => ?_
  have hlt := h i hi
  simp [← Array.getElem?_toList, List.getElem?_append_left, hlt]

theorem filterMap_range_getElem? (ys : List Event) :
    (List.range ys.length).filterMap (ys[·]?) = ys := by
  induction ys with
  | nil => rfl
  | cons y ys ih =>
    rw [List.length_cons, List.range_succ_eq_map, List.filterMap_cons, List.filterMap_map]
    simpa [Function.comp_def] using ih

theorem filterMap_new_places (xs : Array Event) (ys : List Event) :
    ((List.range ys.length).map (xs.size + ·)).filterMap (fun i => (xs ++ ys)[i]?) = ys := by
  have hread : ∀ i, (xs ++ ys)[xs.size + i]? = ys[i]? := by
    intro i
    simp [← Array.getElem?_toList, List.getElem?_append_right]
  rw [List.filterMap_map]
  simpa only [Function.comp_def, hread] using filterMap_range_getElem? ys

theorem history_extend {l : Log} (h : l.Ordered) (a b : Aggregate) (drafts : List Draft) :
    (l.extend a drafts).2.history b = if b = a then l.history a ++ (l.extend a drafts).1
    else l.history b := by
  unfold history
  rw [placesOf_extend, events_extend]
  -- The writer's own aggregate has its new places read at the end; for every other one the log has
  -- only grown.
  by_cases hb : b = a
  · have hlen : (l.extend a drafts).1.length = drafts.length := length_number _ _ _ _
    have hnew := filterMap_new_places l.events (l.extend a drafts).1
    rw [hlen] at hnew
    rw [if_pos hb, if_pos hb, Array.toList_appendList, List.filterMap_append,
      filterMap_places_append _ fun i hi => h.places_lt a i (Array.mem_toList_iff.mp hi)]
    exact congrArg _ hnew
  · rw [if_neg hb, if_neg hb]
    exact filterMap_places_append _ fun i hi => h.places_lt b i (Array.mem_toList_iff.mp hi)

/-! ## Every log is in order -/

theorem ordered_empty : empty.Ordered where
  ids := rfl
  seqs _ := rfl
  history _ := rfl
  places_lt a i hi := absurd hi (by simp [placesOf, empty])

/-- **An extension keeps a log in order.** -/
theorem Ordered.extend {l : Log} (h : l.Ordered) (a : Aggregate) (drafts : List Draft) :
    (l.extend a drafts).2.Ordered where
  ids := by
    rw [toList_extend, List.map_append, h.ids, fst_extend, map_id_number, List.length_append,
      length_number, ← length_toList, Nat.add_comm _ 1, List.range'_append_1]
  seqs b := by
    rw [eventsOf_extend, latest_extend]
    by_cases hb : b = a
    · rw [if_pos hb, if_pos hb, List.map_append, h.seqs, fst_extend, map_seq_number,
        Nat.add_comm _ 1, List.range'_append_1]
    · rw [if_neg hb, if_neg hb]
      exact h.seqs b
  history b := by
    rw [history_extend h, eventsOf_extend, h.history a, h.history b]
  places_lt b i hi := by
    rw [placesOf_extend] at hi
    have hsize : (l.extend a drafts).2.events.size = l.events.size + drafts.length := by
      rw [events_extend, fst_extend, ← Array.length_toList, Array.toList_appendList,
        List.length_append, length_number, Array.length_toList]
    rw [hsize]
    -- An old place was below the old size, and a new one is below the size by as many as were
    -- added.
    by_cases hb : b = a
    · rw [if_pos hb] at hi
      rcases List.mem_append.mp (Array.toList_appendList ▸ Array.mem_toList_iff.mpr hi) with
        hold | hnew
      · have := h.places_lt a i (Array.mem_toList_iff.mp hold)
        omega
      · obtain ⟨j, hj, rfl⟩ := List.mem_map.mp hnew
        have := List.mem_range.mp hj
        simp only [head]
        omega
    · rw [if_neg hb] at hi
      have := h.places_lt b i hi
      omega

namespace Ordered

variable {l : Log}

theorem id_of_getElem? (h : l.Ordered) {i : Nat} {e : Event} (he : l.toList[i]? = some e) :
    e.id = i + 1 := by
  have hmap := congrArg (·[i]?) h.ids
  simp only [List.getElem?_map, he, Option.map_some] at hmap
  have hi := (List.getElem?_eq_some_iff.mp he).1
  rw [List.getElem?_range' hi] at hmap
  have := Option.some.inj hmap
  lia

theorem eq_of_id (h : l.Ordered) {d e : Event} (hd : d ∈ l.toList) (he : e ∈ l.toList)
    (hid : d.id = e.id) : d = e := by
  obtain ⟨i, hi⟩ := List.mem_iff_getElem?.mp hd
  obtain ⟨j, hj⟩ := List.mem_iff_getElem?.mp he
  have hij : i = j := by
    have hdi := h.id_of_getElem? hi
    have hej := h.id_of_getElem? hj
    lia
  rw [hij] at hi
  exact Option.some.inj (hi.symm.trans hj)

theorem id_bounds (h : l.Ordered) {e : Event} (he : e ∈ l.toList) : 1 ≤ e.id ∧ e.id ≤ l.head := by
  have hid : e.id ∈ l.toList.map (·.id) := List.mem_map_of_mem he
  rw [h.ids, List.mem_range'_1, length_toList] at hid
  lia

theorem pairwise_id (h : l.Ordered) : l.toList.Pairwise (fun d e => d.id < e.id) := by
  have hr : (l.toList.map (·.id)).Pairwise (· < ·) := by
    rw [h.ids]
    exact List.pairwise_lt_range'
  exact List.pairwise_map.mp hr

theorem length_eventsOf (h : l.Ordered) (a : Aggregate) : (l.eventsOf a).length = l.latest a := by
  have hlen := congrArg List.length (h.seqs a)
  simpa using hlen

/-- The last number in a beginning of a history says how long it is. -/
theorem last_of_prefix (h : l.Ordered) {a : Aggregate} {history : List Event}
    (hp : history <+: l.eventsOf a) :
    (history.getLast?.map (·.seq)).getD 0 = history.length := by
  have hseqs : history.map (·.seq) = List.range' 1 history.length := by
    have hle := hp.length_le
    rw [h.length_eventsOf] at hle
    have htake := List.prefix_iff_eq_take.mp (hp.map (·.seq))
    rw [h.seqs, List.length_map, List.take_range'_of_length_ge hle] at htake
    exact htake
  rw [← List.getLast?_map, hseqs, List.getLast?_range']
  cases history with
  | nil => rfl
  | cons e rest => simp

end Ordered

end Log

end Journal
