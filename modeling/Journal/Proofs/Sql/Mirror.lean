import Journal.Proofs.Log.Stretch
import Journal.Proofs.Sql.Writing

/-!
# A log in tables

A table of events and a log in memory are two ways to keep the same events. `Tables.Holds` says that
they do: the rows are those of the log's events, in order, and each row gives its event back.

**Every query then finds what a look through the log would find** (`latest_eq`, `head_eq`,
`history_eq`, `read_eq`): numbers are compared as columns hold them, names and identifiers as texts,
and what a query sorts is sorted already. And a batch that a log accepts is written to the table
without a refusal, which then holds the log as it has become (`answering_appendHere_of_holds`,
`Holds.extend`).
-/

namespace Journal.Sql

/-! ## Rows of events -/

def EventRow.ofEvent (e : Event) : EventRow :=
  ⟨.ofDraft e.aggregate e.seq e.draft, some (e.id : Int)⟩

theorem EventRow.toEvent_ofEvent {e : Event} (made : e.aggregate.Made) (fits : e.Fits) :
    (ofEvent e).toEvent = .ok e := (toEvent_eq_ok_iff made ⟨rfl, rfl⟩).mpr fits

theorem toColumn_of_lt {n : Nat} (h : n < 2 ^ 63) : toColumn n = n := by
  rw [toColumn, largestColumn]
  omega

/-- A position that is too large for a column is after no event, and so is the largest value of the
column. -/
theorem toColumn_lt_iff {n id : Nat} (h : id < 2 ^ 63) : toColumn n < id ↔ n < id := by
  rw [toColumn, largestColumn]
  omega

namespace Tables

/-- The rows are those of the log's events, each of which they give back. The numbers fit into their
columns and the aggregates can be made, so that reading a row cannot fail. -/
structure Holds (t : Tables) (l : Log) : Prop where
  rows : t.events = l.toList.map .ofEvent
  ordered : l.Ordered
  made : ∀ e ∈ l.toList, e.aggregate.Made
  fits : ∀ e ∈ l.toList, e.Fits
  room : l.head < 2 ^ 63

theorem holds_empty : empty.Holds .empty where
  rows := rfl
  ordered := Log.ordered_empty
  made _ he := absurd he List.not_mem_nil
  fits _ he := absurd he List.not_mem_nil
  room := by decide

/-! ## What the conditions of queries come to -/

theorem name_eq_iff {k l : AggregateKind} : k.name = l.name ↔ k = l := by
  obtain ⟨_, _⟩ := k
  obtain ⟨_, _⟩ := l
  simp

theorem uuid_eq_iff {o p : OrgId} : o.uuid = p.uuid ↔ o = p := by
  obtain ⟨_⟩ := o
  obtain ⟨_⟩ := p
  simp

theorem aggregate_eq_iff {a b : Aggregate} : a.kind.name = b.kind.name ∧ a.id = b.id ↔ a = b := by
  obtain ⟨_, _⟩ := a
  obtain ⟨_, _⟩ := b
  simp [name_eq_iff]

theorem isOf_ofEvent (a : Aggregate) (e : Event) :
    isOf a.kind.name a.id (.ofEvent e) = decide (e.aggregate = a) := by
  rw [Bool.eq_iff_iff, decide_eq_true_iff, ← aggregate_eq_iff]
  simp [isOf, EventRow.ofEvent, EventColumns.ofDraft]

theorem all_org_eq (o asked : Option OrgId) :
    (asked.map (·.uuid)).all (fun u => o.map (·.uuid) == some u) = asked.all fun p =>
    o == some p := by
  cases asked with
  | none => rfl
  | some p =>
    rw [Bool.eq_iff_iff]
    simp [uuid_eq_iff]

theorem all_kind_eq (k : AggregateKind) (asked : Option AggregateKind) :
    (asked.map (·.name)).all (fun n => k.name == n) = asked.all fun l => k == l := by
  cases asked with
  | none => rfl
  | some l =>
    rw [Bool.eq_iff_iff]
    simp [name_eq_iff]

theorem contains_name_eq (k : AggregateKind) (excluded : List AggregateKind) :
    (excluded.map (·.name)).contains k.name = excluded.contains k := by
  rw [Bool.eq_iff_iff]
  simp [name_eq_iff]

theorem answers_ofEvent {e : Event} (access : Access) (h : e.id < 2 ^ 63) :
    answers (.ofAccess access) (.ofEvent e) = access.accepts e := by
  simp only [answers, Query.ofAccess, EventRow.ofEvent, EventColumns.ofDraft, Event.draft,
    Option.any_some, toColumn_lt_iff h, all_org_eq, all_kind_eq, isAllowed, contains_name_eq,
    Option.some_beq_some, Access.accepts, Filter.accepts, Event.org]
  -- Only the order of the conditions differs.
  ac_rfl

/-! ## What queries find -/

theorem ofColumn_largest {column : EventRow → Option Int} {rows : List EventRow} {n : Nat}
    (h : rows.filterMap column = (List.range' 1 n).map Nat.cast) :
    ofColumn (largest column rows) = n := by
  rw [largest, h]
  cases n with
  | zero => rfl
  | succ n =>
    have hmax :
        ((List.range' 1 (n + 1)).map (Nat.cast : Nat → Int)).max? = some ((n + 1 : Nat) : Int) := by
      rw [List.max?_eq_some_iff]
      constructor
      · exact List.mem_map_of_mem (by rw [List.mem_range'_1]; omega)
      · intro i hi
        obtain ⟨j, hj, rfl⟩ := List.mem_map.mp hi
        rw [List.mem_range'_1] at hj
        omega
    rw [hmax]
    rfl

namespace Holds

variable {t : Tables} {l : Log}

theorem filter_isOf (h : t.Holds l) (a : Aggregate) :
    t.events.filter (isOf a.kind.name a.id) = (l.eventsOf a).map .ofEvent := by
  rw [h.rows, List.filter_map, Log.eventsOf]
  exact congrArg _ (List.filter_congr fun e _ => isOf_ofEvent a e)

theorem fits_of_mem_eventsOf (h : t.Holds l) {a : Aggregate} {e : Event} (he : e ∈ l.eventsOf a) :
    e.Fits :=
  h.fits e (List.mem_of_mem_filter he)

theorem latest_eq (h : t.Holds l) (a : Aggregate) : t.latest a = l.latest a := by
  refine ofColumn_largest ?_
  rw [h.filter_isOf, List.filterMap_map, ← h.ordered.seqs a, List.map_map, ← List.filterMap_eq_map]
  refine List.filterMap_congr fun e he => ?_
  exact congrArg some (toColumn_of_lt (h.fits_of_mem_eventsOf he).seq)

theorem head_eq (h : t.Holds l) : t.head = l.head := by
  refine ofColumn_largest ?_
  rw [h.rows, List.filterMap_map, ← Log.length_toList, ← h.ordered.ids, List.map_map,
    ← List.filterMap_eq_map]
  rfl

theorem history_eq (h : t.Holds l) (a : Aggregate) :
    t.history a.kind.name a.id = (l.eventsOf a).map .ofEvent := by
  -- Sorting changes nothing: the numbers of an aggregate ascend along the log.
  have hseqs : ((l.eventsOf a).map (·.seq)).Pairwise (· < ·) := by
    rw [h.ordered.seqs]
    exact List.pairwise_lt_range'
  rw [history, h.filter_isOf]
  refine List.mergeSort_of_pairwise (List.pairwise_map.mpr ?_)
  refine (List.pairwise_map.mp hseqs).imp_of_mem fun {d e} hd he hlt => ?_
  have hcolumns : toColumn d.seq ≤ toColumn e.seq := by
    rw [toColumn_of_lt (h.fits_of_mem_eventsOf hd).seq,
      toColumn_of_lt (h.fits_of_mem_eventsOf he).seq]
    exact Int.ofNat_le.mpr (Nat.le_of_lt hlt)
  exact decide_eq_true hcolumns

theorem read_eq (h : t.Holds l) (access : Access) :
    t.read (.ofAccess access) = ((l.accepted access).take (access.limit + 1)).map .ofEvent := by
  have hfilter :
      t.events.filter (answers (.ofAccess access)) = (l.accepted access).map .ofEvent := by
    rw [h.rows, List.filter_map, Log.accepted]
    refine congrArg _ (List.filter_congr fun e he => answers_ofEvent access ?_)
    exact Nat.lt_of_le_of_lt (h.ordered.id_bounds he).2 h.room
  have hsorted : ((l.accepted access).map EventRow.ofEvent).Pairwise fun d e =>
      noLater d.id e.id := by
    refine List.pairwise_map.mpr ((Log.pairwise_accepted h.ordered access).imp fun {d e} hlt => ?_)
    exact decide_eq_true (Int.ofNat_le.mpr (Nat.le_of_lt hlt))
  rw [read, hfilter, List.mergeSort_of_pairwise hsorted, List.map_take]
  rfl

theorem mapM_toEvent (h : t.Holds l) {events : List Event} (hsub : events ⊆ l.toList) :
    (events.map EventRow.ofEvent).mapM EventRow.toEvent = .ok events :=
  mapM_map_eq_ok fun e he => EventRow.toEvent_ofEvent (h.made e (hsub he)) (h.fits e (hsub he))

/-! ## What writers find and leave -/

theorem of_events_eq {u : Tables} (h : t.Holds l) (hevents : u.events = t.events) : u.Holds l where
  rows := hevents.trans h.rows
  ordered := h.ordered
  made := h.made
  fits := h.fits
  room := h.room

theorem latest_le_head (h : t.Holds l) (a : Aggregate) : l.latest a ≤ l.head := by
  rw [← h.ordered.length_eventsOf, ← Log.length_toList]
  exact List.length_filter_le _ _

theorem hasRoom (h : t.Holds l) (a : Aggregate) {drafts : List Draft}
    (room : l.head + drafts.length < 2 ^ 63) :
    t.HasRoom a (firstAssigned (l.latest a)) drafts where
  free r hr hof n hn := by
    have hmem : r ∈ (l.eventsOf a).map EventRow.ofEvent := by
      rw [← h.filter_isOf]
      exact List.mem_filter.mpr ⟨hr, hof⟩
    obtain ⟨e, he, rfl⟩ := List.mem_map.mp hmem
    have hcolumn : toColumn e.seq = n := Option.some.inj hn
    have hseq : e.seq ∈ List.range' 1 (l.latest a) := h.ordered.seqs a ▸ List.mem_map_of_mem he
    rw [List.mem_range'_1] at hseq
    rw [← hcolumn, toColumn_of_lt (h.fits_of_mem_eventsOf he).seq, firstAssigned]
    lia
  enough := by
    have := h.latest_le_head a
    rw [firstAssigned]
    lia

/-- **A table that holds a log holds it still when both have grown.** -/
theorem extend (h : t.Holds l) {a : Aggregate} (made : a.Made) {drafts : List Draft}
    (fits : ∀ d ∈ drafts, d.Fits) (room : l.head + drafts.length < 2 ^ 63) :
    { t with events := t.events ++ (l.extend a drafts).1.map EventRow.ofEvent }.Holds
    (l.extend a drafts).2 where
  rows := by rw [Log.toList_extend, List.map_append, h.rows]
  ordered := h.ordered.extend a drafts
  made e he := by
    rw [Log.toList_extend] at he
    rcases List.mem_append.mp he with he | he
    · exact h.made e he
    · rw [Log.aggregate_of_mem_number he]
      exact made
  fits e he := by
    rw [Log.toList_extend] at he
    rcases List.mem_append.mp he with he | he
    · exact h.fits e he
    · have hdraft : e.draft ∈ drafts := Log.map_draft_number a _ _ drafts ▸ List.mem_map_of_mem he
      have hseq : e.seq ∈ List.range' (l.latest a + 1) drafts.length :=
        Log.map_seq_number a _ _ drafts ▸ List.mem_map_of_mem he
      have hlatest := h.latest_le_head a
      rw [List.mem_range'_1] at hseq
      exact ⟨by lia, (fits _ hdraft).version, (fits _ hdraft).causation⟩
  room := by
    rw [Log.head_extend]
    exact room

end Holds

end Tables

theorem eventsFrom_eq_number (a : Aggregate) (n : Nat) (seq : Seq) (drafts : List Draft) :
    eventsFrom a n seq drafts = Log.number a (n + 1) seq drafts := by
  induction drafts generalizing n seq with
  | nil => rfl
  | cons d rest ih => exact congrArg (List.cons _) (ih (n + 1) (seq + 1))

theorem rowsFrom_eq_map (a : Aggregate) (n : Nat) (seq : Seq) (drafts : List Draft) :
    rowsFrom a n seq drafts = (Log.number a (n + 1) seq drafts).map .ofEvent := by
  induction drafts generalizing n seq with
  | nil => rfl
  | cons d rest ih => exact congrArg (List.cons _) (ih (n + 1) (seq + 1))

/-- **A batch that the log accepts is written**, with the same events. -/
theorem answering_appendHere_of_holds {db : Database} {l : Log} (h : db.tables.Holds l)
    (lastId : db.lastId = l.head) {a : Aggregate} {expected : Seq} {drafts : List Draft}
    (room : expected = l.latest a → l.head + drafts.length < 2 ^ 63) (now : Instant) :
    (appendHere a expected drafts).against (answering now) db =
      if expected = l.latest a then
        (.ok (l.extend a drafts).1, db.grown ((l.extend a drafts).1.map .ofEvent))
      else (.error (.aggregateConflict a expected (some (l.latest a))), db) := by
  rw [answering_appendHere, h.latest_eq]
  by_cases hexpected : expected = l.latest a
  · have hroom := h.hasRoom a (room hexpected)
    rw [if_pos hexpected, if_pos hexpected, hexpected, answering_insertAll_of_free now _ hroom,
      lastId, eventsFrom_eq_number, rowsFrom_eq_map]
    rfl
  · rw [if_neg hexpected, if_neg hexpected]

end Journal.Sql
