import Journal.Json
import Journal.Power

/-!
# Records in JSON

A record is written as an object with a member for each field, or read from the list of its fields'
values in their order. Members that are no field are passed over. A field that need not be there is
absent when its member is missing or `null`; it is written as `null`.

The lemmas say what a decoder finds in an object that was built from members (`member?_ofMembers`).
-/

namespace Journal.Json

/-! ## Single values -/

def text? : Json → Option String
  | .text s => some s
  | _ => none

def bool? : Json → Option Bool
  | .bool b => some b
  | _ => none

/-- A whole number that is not negative and below a limit. -/
def nat? (limit : Nat) : Json → Option Nat
  | .int n => if 0 ≤ n ∧ n < limit then some n.toNat else none
  | _ => none

/-- A number that fits into sixty-four bits without a sign. -/
def word? : Json → Option Nat := nat? (2 ^ 64)

/-- A double; a whole number is taken as the double nearest to it. -/
def float? : Json → Option Float
  | .float x => some x
  | .int n => some (Float.ofInt n)
  | _ => none

def list? : Json → Option (List Json)
  | .list items => some items
  | _ => none

def listOf? {α : Type} (decode : Json → Option α) (v : Json) : Option (List α) :=
  v.list?.bind (·.mapM decode)

/-- The name of a choice: a text, or an object whose only member has that name and no value. Both
are ways to write a choice that has no parts. -/
def choice? : Json → Option String
  | .text s => some s
  | .object [(s, .null)] => some s
  | _ => none

/-! ## Fields -/

abbrev Fields := String → Option Json

/-- The values of a list under names, one for one. -/
def named (names : List String) (items : List Json) : Fields := fun name =>
  ((names.zip items).find? (·.1 == name)).map (·.2)

/-- The fields of a record with the given names. A record may be an object, with whatever other
members, or the list of its fields in their order. -/
def fields? (names : List String) : Json → Option Fields
  | .object members => some fun name => member? name (.object members)
  | .list items => if items.length = names.length then some (named names items) else none
  | _ => none

/-- The fields of a record that is always an object. -/
def members? (v : Json) : Option Fields :=
  if v.isObject then some (v.member? ·) else none

/-- The value of a field that must be there. -/
def Fields.required {α : Type} (f : Fields) (name : String) (decode : Json → Option α) : Option α :=
  (f name).bind decode

/-- The value of a field that need not be there. `null` counts as not being there, as that is how an
absent value is written. -/
def Fields.optional {α : Type} (f : Fields) (name : String) (decode : Json → Option α) :
    Option (Option α) :=
  match f name with
  | none | some .null => some none
  | some v => (decode v).map some

/-! ## What is found in an object -/

theorem member?_cons (name : String) (m : String × Json) (ms : List (String × Json)) :
    member? name (.object (m :: ms)) = if m.1 = name then some m.2
    else member? name (.object ms) := by
  by_cases h : m.1 = name
  · simp [member?, List.find?_cons_of_pos, h]
  · simp [member?, List.find?_cons_of_neg, h]

theorem member?_append (name : String) (xs ys : List (String × Json)) :
    member? name (.object (xs ++ ys)) = (member? name (.object xs)).or
    (member? name (.object ys)) := by
  simp only [member?, List.find?_append]
  cases xs.find? (·.1 == name) <;> rfl

theorem member?_insertMember (name k : String) (v : Json) (ms : List (String × Json)) :
    member? name (.object (insertMember k v ms)) =
      if k = name then some v else member? name (.object ms) := by
  induction ms with
  | nil => rw [insertMember, member?_cons]
  | cons m rest ih =>
    obtain ⟨l, w⟩ := m
    rw [insertMember]
    split
    · rw [member?_cons]
    · split
      · next h =>
        subst h
        rw [member?_cons, member?_cons]
        split <;> simp_all
      · next h =>
        rw [member?_cons, member?_cons, ih]
        split <;> split <;> simp_all

/-- Of the members that an object is built from, the last one of a name is found under it. -/
theorem member?_ofMembers (name : String) (ms : List (String × Json)) :
    (ofMembers ms).member? name = member? name (.object ms.reverse) := by
  suffices ∀ acc : List (String × Json),
      member? name (.object (ms.foldl (fun acc m => insertMember m.1 m.2 acc) acc)) =
        member? name (.object (ms.reverse ++ acc)) by
    simpa [ofMembers] using this []
  induction ms with
  | nil => exact fun _ => rfl
  | cons m rest ih =>
    intro acc
    rw [List.foldl_cons, ih, member?_append, member?_insertMember, List.reverse_cons,
      List.append_assoc, member?_append, List.singleton_append, member?_cons]

end Journal.Json
