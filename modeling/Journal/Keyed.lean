/-!
# Values under keys

A finite map as a list of entries in the order in which their keys were first inserted, each key
once. Its view is `get?`: inserting, erasing and filtering are described by what they do to it
(`get?_insert`, `get?_erase`, `get?_filter`).
-/

namespace Journal

variable {κ ν : Type}

/-- Values under keys, in the order in which the keys came in. The order matters to nobody who looks
values up, and shows only where all of them are listed. -/
structure Keyed (κ ν : Type) where
  entries : List (κ × ν)
  nodup : (entries.map (·.1)).Nodup

namespace Keyed

def empty : Keyed κ ν := ⟨[], by simp⟩

instance : Inhabited (Keyed κ ν) := ⟨empty⟩

def size (m : Keyed κ ν) : Nat := m.entries.length

def keys (m : Keyed κ ν) : List κ := m.entries.map (·.1)

def values (m : Keyed κ ν) : List ν := m.entries.map (·.2)

theorem ext {m n : Keyed κ ν} (h : m.entries = n.entries) : m = n := by
  cases m; cases n; cases h; rfl

variable [DecidableEq κ]

def find? (k : κ) : List (κ × ν) → Option ν
  | [] => none
  | (l, v) :: rest => if k = l then some v else find? k rest

def get? (m : Keyed κ ν) (k : κ) : Option ν := find? k m.entries

def contains (m : Keyed κ ν) (k : κ) : Bool := (m.get? k).isSome

/-- Replace the value under a key, or add an entry at the end. -/
def put (k : κ) (v : ν) : List (κ × ν) → List (κ × ν)
  | [] => [(k, v)]
  | (l, w) :: rest => if k = l then (l, v) :: rest else (l, w) :: put k v rest

theorem mem_keys_put {k : κ} {v : ν} {es : List (κ × ν)} {l : κ} :
    l ∈ (put k v es).map (·.1) ↔ l = k ∨ l ∈ es.map (·.1) := by
  induction es with
  | nil => simp [put]
  | cons e rest ih =>
    obtain ⟨a, w⟩ := e
    by_cases h : k = a
    · subst h
      simp [put]
    · simp only [put, h, if_false, List.map_cons, List.mem_cons, ih]
      exact or_left_comm

theorem nodup_put {k : κ} {v : ν} {es : List (κ × ν)} (h : (es.map (·.1)).Nodup) :
    ((put k v es).map (·.1)).Nodup := by
  induction es with
  | nil => simp [put]
  | cons e rest ih =>
    obtain ⟨a, w⟩ := e
    simp only [List.map_cons, List.nodup_cons] at h
    by_cases hk : k = a
    · subst hk
      simpa [put] using h
    · simp only [put, hk, if_false, List.map_cons, List.nodup_cons]
      refine ⟨?_, ih h.2⟩
      intro hmem
      rcases mem_keys_put.1 hmem with rfl | hmem
      · exact hk rfl
      · exact h.1 hmem

def insert (m : Keyed κ ν) (k : κ) (v : ν) : Keyed κ ν :=
  ⟨put k v m.entries, nodup_put m.nodup⟩

def filter (m : Keyed κ ν) (p : κ → ν → Bool) : Keyed κ ν where
  entries := m.entries.filter fun e => p e.1 e.2
  nodup := (List.filter_sublist.map _).nodup m.nodup

def erase (m : Keyed κ ν) (k : κ) : Keyed κ ν :=
  m.filter fun l _ => !decide (l = k)

/-! ## What the operations do to the view -/

@[simp] theorem get?_empty (k : κ) : (empty : Keyed κ ν).get? k = none := rfl

theorem find?_put {k l : κ} {v : ν} {es : List (κ × ν)} :
    find? l (put k v es) = if l = k then some v else find? l es := by
  induction es with
  | nil => simp [put, find?]
  | cons e rest ih =>
    obtain ⟨a, w⟩ := e
    by_cases h : k = a
    · subst h
      by_cases hl : l = k <;> simp [put, find?, hl]
    · by_cases hl : l = a
      · subst hl
        simp [put, find?, h, Ne.symm h]
      · simp [put, find?, h, hl, ih]

/-- After an insertion the key has the new value, and every other key the one it had. -/
theorem get?_insert (m : Keyed κ ν) (k l : κ) (v : ν) :
    (m.insert k v).get? l = if l = k then some v else m.get? l :=
  find?_put

theorem put_put (k : κ) (v w : ν) (es : List (κ × ν)) : put k w (put k v es) = put k w es := by
  induction es with
  | nil => simp [put]
  | cons e rest ih =>
    obtain ⟨a, u⟩ := e
    by_cases h : k = a
    · simp [put, h]
    · simp [put, h, ih]

/-- Of two insertions under a key only the second shows. -/
theorem insert_insert (m : Keyed κ ν) (k : κ) (v w : ν) :
    (m.insert k v).insert k w = m.insert k w :=
  ext (put_put k v w m.entries)

theorem find?_eq_none {k : κ} {es : List (κ × ν)} (h : k ∉ es.map (·.1)) : find? k es = none := by
  induction es with
  | nil => rfl
  | cons e rest ih =>
    obtain ⟨a, w⟩ := e
    simp only [List.map_cons, List.mem_cons, not_or] at h
    simp [find?, h.1, ih h.2]

theorem find?_filter {p : κ → ν → Bool} {k : κ} {es : List (κ × ν)} (h : (es.map (·.1)).Nodup) :
    find? k (es.filter fun e => p e.1 e.2) = (find? k es).filter (p k) := by
  induction es with
  | nil => rfl
  | cons e rest ih =>
    obtain ⟨a, w⟩ := e
    simp only [List.map_cons, List.nodup_cons] at h
    by_cases hk : k = a
    · subst hk
      by_cases hp : p k w = true
      · simp [find?, Option.filter, hp]
      · have hnone : find? k (rest.filter fun e => p e.1 e.2) = none := by
          rw [ih h.2, find?_eq_none h.1]
          rfl
        simp [find?, Option.filter, hp, hnone]
    · by_cases hp : p a w = true
      · simp [find?, hk, hp, ih h.2]
      · simp [find?, hk, hp, ih h.2]

/-- Filtering keeps a value exactly when the test accepts it. -/
theorem get?_filter (m : Keyed κ ν) (p : κ → ν → Bool) (k : κ) :
    (m.filter p).get? k = (m.get? k).filter (p k) :=
  find?_filter m.nodup

/-- After an erasure the key has no value, and every other key the one it had. -/
theorem get?_erase (m : Keyed κ ν) (k l : κ) :
    (m.erase k).get? l = if l = k then none else m.get? l := by
  rw [erase, get?_filter]
  by_cases h : l = k
  · cases m.get? l <;> simp [h]
  · cases m.get? l <;> simp [h]

end Keyed

end Journal
