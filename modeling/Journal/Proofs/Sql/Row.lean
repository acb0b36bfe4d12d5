import Journal.Sql.Row

/-!
# What a row says of its event

A row is written from an event and read back as one. In between stand columns that hold less than a
number of the event may be: what does not fit becomes the largest value of its column, and nobody is
told. `EventRow.Keeps` says that a row was written for an event, and **`toEvent_eq_ok_iff` that it
gives the event back exactly when all of its numbers fit**. Everything else survives, and the rules
that are checked on the way back are none that a written row could break.
-/

namespace Journal

/-- The aggregate is one that can be made. Reading a row makes its aggregate, so that the row of any
other would be refused. -/
def Aggregate.Made (a : Aggregate) : Prop := make a.kind a.id = .ok a

theorem Aggregate.made_of_make {kind : AggregateKind} {id : String} {a : Aggregate}
    (h : make kind id = .ok a) :
    a.Made := by
  have heq : a = ⟨kind, id⟩ := by
    unfold make at h
    split at h
    · cases h
    · split at h
      · cases h
      · exact (Except.ok.inj h).symm
  subst heq
  exact h

theorem AggregateKind.parse_name (k : AggregateKind) : parse k.name = .ok k := by
  unfold parse
  split
  · rfl
  · next hfault => exact absurd (k.faultless.symm.trans hfault) (by simp)

theorem ActorKind.parse_name (k : ActorKind) : parse k.name = .ok k := by
  rw [parse, ofName?_name]

namespace Sql

theorem mapError_ok {ε ε' α : Type} (f : ε → ε') (a : α) :
    (Except.ok a : Except ε α).mapError f = .ok a := rfl

/-- Rows that give back what they were made of give back the whole list. -/
theorem mapM_map_eq_ok {ε α β : Type} {row : α → β} {read : β → Except ε α} {l : List α}
    (h : ∀ a ∈ l, read (row a) = .ok a) : (l.map row).mapM read = .ok l := by
  induction l with
  | nil => rfl
  | cons a rest ih =>
    rw [List.map_cons, List.mapM_cons, h a List.mem_cons_self,
      ih fun b hb => h b (List.mem_cons_of_mem a hb)]
    rfl

/-! ## Numbers in columns -/

theorem ofColumn_toColumn_eq_iff (n : Nat) : ofColumn (toColumn n) = n ↔ n < 2 ^ 63 := by
  simp only [ofColumn, toColumn, largestColumn]
  omega

theorem ofColumn_toVersionColumn_eq_iff (n : Nat) :
    ofColumn (toVersionColumn n) = n ↔ n < 2 ^ 31 := by
  simp only [ofColumn, toVersionColumn, largestVersion]
  omega

/-! ## Rows and events -/

namespace EventRow

structure Keeps (r : EventRow) (e : Event) : Prop where
  columns : r.toEventColumns = .ofDraft e.aggregate e.seq e.draft
  id : r.id.map ofColumn = some e.id

end EventRow

end Sql

open Sql

structure Draft.Fits (d : Draft) : Prop where
  version : d.version < 2 ^ 31
  causation : ∀ c ∈ d.provenance.causation, c < 2 ^ 63

namespace Event

structure Fits (e : Event) : Prop where
  seq : e.seq < 2 ^ 63
  version : e.version < 2 ^ 31
  causation : ∀ c ∈ e.provenance.causation, c < 2 ^ 63

/-- The event with its numbers as their columns hold them. -/
def cut (e : Event) : Event :=
  { e with
    seq := ofColumn (toColumn e.seq)
    version := ofColumn (toVersionColumn e.version)
    provenance :=
      { e.provenance with causation := (e.provenance.causation.map toColumn).map ofColumn } }

theorem map_causation_eq_iff (causation : Option EventId) :
    (causation.map toColumn).map ofColumn = causation ↔ ∀ c ∈ causation, c < 2 ^ 63 := by
  cases causation with
  | none => simp
  | some c => simpa using ofColumn_toColumn_eq_iff c

theorem cut_eq_iff (e : Event) : e.cut = e ↔ e.Fits := by
  have hfields : e.cut = e ↔ ofColumn (toColumn e.seq) = e.seq ∧
      ofColumn (toVersionColumn e.version) = e.version ∧
      (e.provenance.causation.map toColumn).map ofColumn = e.provenance.causation := by
    obtain ⟨_, _, _, _, _, _, ⟨_, _, _, _, _, _, _⟩, _⟩ := e
    simp [cut]
  rw [hfields, ofColumn_toColumn_eq_iff, ofColumn_toVersionColumn_eq_iff, map_causation_eq_iff]
  exact ⟨fun ⟨seq, version, causation⟩ => ⟨seq, version, causation⟩,
    fun h => ⟨h.seq, h.version, h.causation⟩⟩

end Event

namespace Sql.EventRow

variable {r : EventRow} {e : Event}

/-- A row gives back its event with the numbers that its columns hold. -/
theorem toEvent_of_keeps (made : e.aggregate.Made) (h : r.Keeps e) : r.toEvent = .ok e.cut := by
  obtain ⟨columns, id⟩ := r
  obtain ⟨hcolumns, hid⟩ := h
  dsimp only at hcolumns
  subst hcolumns
  obtain ⟨n, rfl, hn⟩ := Option.map_eq_some_iff.mp hid
  have hmade : Aggregate.make e.aggregate.kind e.aggregate.id = .ok e.aggregate := made
  have horg : (e.provenance.org.map (·.uuid)).map OrgId.mk = e.provenance.org := by
    cases e.provenance.org <;> rfl
  -- What is required is there, and each name is the name of what it was written for.
  simp only [toEvent, EventColumns.ofDraft, Event.draft, required, AggregateKind.parse_name,
    ActorKind.parse_name, mapError_ok, bind, Except.bind, hmade, hn, horg]
  rfl

/-- **A row gives back its event exactly when the numbers of the event fit.** -/
theorem toEvent_eq_ok_iff (made : e.aggregate.Made) (h : r.Keeps e) :
    r.toEvent = .ok e ↔ e.Fits := by
  rw [toEvent_of_keeps made h, Except.ok.injEq, Event.cut_eq_iff]

end Sql.EventRow

end Journal
