import Journal.Keyed
import Mathlib.Logic.Function.Basic

/-!
# Entries under keys

What lookups and insertions do to a list of entries, beside what they do to the view: the entry that
a lookup finds is one of the list, and the one that an insertion adds is the only new one. Renaming
the keys one to one and the values in any way commutes with both, so that two tables that file the
same things under different names stay in step.
-/

namespace Journal

namespace Keyed

variable {κ κ' ν ν' : Type} {rename : κ → κ'}

theorem values_of_map_entries {m : Keyed κ ν} {n : Keyed κ' ν'} {f : ν → ν'}
    (h : n.entries = m.entries.map (Prod.map rename f)) : n.values = m.values.map f := by
  rw [values, values, h, List.map_map, List.map_map]
  rfl

variable [DecidableEq κ] [DecidableEq κ']

theorem find?_map_entries (injective : Function.Injective rename) (f : ν → ν') (k : κ)
    (es : List (κ × ν)) :
    find? (rename k) (es.map (Prod.map rename f)) = (find? k es).map f := by
  induction es with
  | nil => rfl
  | cons e rest ih =>
    obtain ⟨l, v⟩ := e
    by_cases hk : k = l
    · subst hk
      simp [find?, Prod.map]
    · simp [find?, Prod.map, hk, injective.ne hk, ih]

theorem put_map_entries (injective : Function.Injective rename) (f : ν → ν') (k : κ) (v : ν)
    (es : List (κ × ν)) :
    put (rename k) (f v) (es.map (Prod.map rename f)) = (put k v es).map (Prod.map rename f) := by
  induction es with
  | nil => rfl
  | cons e rest ih =>
    obtain ⟨l, w⟩ := e
    by_cases hk : k = l
    · subst hk
      simp [put, Prod.map]
    · simp [put, Prod.map, hk, injective.ne hk, ih]

theorem mem_of_find? {k : κ} {v : ν} {es : List (κ × ν)} (h : find? k es = some v) :
    (k, v) ∈ es := by
  induction es with
  | nil => cases h
  | cons e rest ih =>
    obtain ⟨l, w⟩ := e
    rw [find?] at h
    split at h
    · next hk =>
      cases h
      rw [hk]
      exact List.mem_cons_self
    · exact List.mem_cons_of_mem _ (ih h)

theorem find?_of_mem {k : κ} {v : ν} {es : List (κ × ν)} (nodup : (es.map (·.1)).Nodup)
    (h : (k, v) ∈ es) :
    find? k es = some v := by
  induction es with
  | nil => cases h
  | cons e rest ih =>
    obtain ⟨l, w⟩ := e
    rw [List.map_cons, List.nodup_cons] at nodup
    rcases List.mem_cons.mp h with heq | hrest
    · cases heq
      rw [find?, if_pos rfl]
    · have hk : k ≠ l := by
        rintro rfl
        exact nodup.1 (List.mem_map.mpr ⟨(k, v), hrest, rfl⟩)
      rw [find?, if_neg hk, ih nodup.2 hrest]

/-- An entry is one of a table exactly when its value is the one under its key. -/
theorem mem_entries_iff {m : Keyed κ ν} {k : κ} {v : ν} : (k, v) ∈ m.entries ↔ m.get? k = some v :=
  ⟨find?_of_mem m.nodup, mem_of_find?⟩

theorem mem_put {k : κ} {v : ν} {es : List (κ × ν)} {e : κ × ν} (h : e ∈ put k v es) :
    e = (k, v) ∨ e ∈ es := by
  induction es with
  | nil => exact Or.inl (List.mem_singleton.mp h)
  | cons first rest ih =>
    obtain ⟨l, w⟩ := first
    by_cases hk : k = l
    · rw [put, if_pos hk, List.mem_cons] at h
      rcases h with rfl | h
      · exact Or.inl (congrArg (·, v) hk.symm)
      · exact Or.inr (List.mem_cons_of_mem _ h)
    · rw [put, if_neg hk, List.mem_cons] at h
      rcases h with rfl | h
      · exact Or.inr List.mem_cons_self
      · rcases ih h with hnew | hold
        · exact Or.inl hnew
        · exact Or.inr (List.mem_cons_of_mem _ hold)

end Keyed

end Journal
