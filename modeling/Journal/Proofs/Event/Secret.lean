import Journal.Event.Secret
import Mathlib

/-!
# What the search for secret material finds

The search goes through a payload with a path in its hand, which it lengthens at every step and
gives as its answer. What is to be known of it is whether there is an answer at all, and for that
the path is of no account.

**The search finds nothing exactly when no member of any object in the payload, at any depth, has a
name of secret material** (`path?_eq_none_iff`). `Json.HasName` says where a name can stand without
saying in what order one looks, and `NamesSecret` says what such a name is of the name as it is
written: the case of its letters does not matter, and neither does what comes before the last
underscore or hyphen.
-/

namespace Journal

namespace Json

/-- Some object in the value, at whatever depth, has a member of the name. There is no path in it:
where the search finds something is of no interest to whether there is something to be found. -/
inductive HasName (name : String) : Json → Prop
  | here {members : List (String × Json)} {v : Json} (mem : (name, v) ∈ members) :
      HasName name (.object members)
  | member {members : List (String × Json)} {outer : String} {v : Json} (mem : (outer, v) ∈ members)
      (inner : HasName name v) : HasName name (.object members)
  | item {items : List Json} {v : Json} (mem : v ∈ items) (inner : HasName name v) :
      HasName name (.list items)

theorem sizeOf_lt_of_member {members : List (String × Json)} {m : String × Json} (h : m ∈ members) :
    sizeOf m.2 < sizeOf (object members) := by
  have hmember := List.sizeOf_lt_of_mem h
  obtain ⟨name, v⟩ := m
  simp only [object.sizeOf_spec, Prod.mk.sizeOf_spec] at hmember ⊢
  omega

theorem sizeOf_lt_of_item {items : List Json} {v : Json} (h : v ∈ items) :
    sizeOf v < sizeOf (list items) := by
  have hitem := List.sizeOf_lt_of_mem h
  simp only [list.sizeOf_spec]
  omega

end Json

namespace Secret

variable {name : String} {word : List Char}

/-! ## Names -/

/-- The same letters in whatever case; only the letters of ASCII have one. -/
def SameLetters (as bs : List Char) : Prop := as.map Char.toLower = bs.map Char.toLower

def NamesWord (name word : List Char) : Prop :=
  SameLetters name word ∨
    ∃ stem mark last, name = stem ++ mark :: last ∧ (mark = '_' ∨ mark = '-') ∧
    SameLetters last word

def NamesSecret (name : String) : Prop := ∃ word ∈ words, NamesWord name.toList word.toList

/-- What is no letter is the lower case of itself alone. -/
theorem toLower_eq_iff {mark : Char} (unlettered : mark.isAlpha = false) (c : Char) :
    c.toLower = mark ↔ c = mark := by
  by_cases hupper : c.isUpper = true
  · have halpha : c.isAlpha = true := by simp [Char.isAlpha, hupper]
    constructor
    · rintro rfl
      rw [Char.isAlpha_toLower_eq_isAlpha, halpha] at unlettered
      cases unlettered
    · rintro rfl
      rw [halpha] at unlettered
      cases unlettered
  · rw [Char.toLower_eq_of_not_isUpper hupper]

theorem sameLetters_iff (lower : word.map Char.toLower = word) (cs : List Char) :
    SameLetters cs word ↔ cs.map Char.toLower = word := by
  rw [SameLetters, lower]

/-- A name in lower case ends in a mark and a word just when the name as it is written does. -/
theorem suffix_folded_iff (mark : Char) (unlettered : mark.isAlpha = false)
    (lower : word.map Char.toLower = word) :
    mark :: word <:+ folded name ↔ ∃ stem last, name.toList = stem ++ mark :: last ∧
    SameLetters last word := by
  have hmark := toLower_eq_iff unlettered
  constructor
  · rintro ⟨front, hfront⟩
    obtain ⟨stem, rest, hname, _, hrest⟩ := List.map_eq_append_iff.mp hfront.symm
    obtain ⟨c, last, rfl, hc, hlast⟩ := List.map_eq_cons_iff.mp hrest
    obtain rfl := (hmark c).mp hc
    exact ⟨stem, last, hname, (sameLetters_iff lower last).mpr hlast⟩
  · rintro ⟨stem, last, hname, hlast⟩
    refine ⟨stem.map Char.toLower, ?_⟩
    rw [folded, hname, List.map_append, List.map_cons, (hmark mark).mpr rfl,
      (sameLetters_iff lower last).mp hlast]

theorem matchesWord_iff (lower : word.map Char.toLower = word) :
    matchesWord (folded name) word = true ↔ NamesWord name.toList word := by
  rw [NamesWord, matchesWord, Bool.or_eq_true, Bool.or_eq_true, beq_iff_eq,
    List.isSuffixOf_iff_suffix, List.isSuffixOf_iff_suffix, suffix_folded_iff '_' rfl lower,
    suffix_folded_iff '-' rfl lower, or_assoc, sameLetters_iff lower, folded]
  refine or_congr_right ⟨?_, ?_⟩
  · rintro (⟨stem, last, hname, hlast⟩ | ⟨stem, last, hname, hlast⟩)
    · exact ⟨stem, '_', last, hname, Or.inl rfl, hlast⟩
    · exact ⟨stem, '-', last, hname, Or.inr rfl, hlast⟩
  · rintro ⟨stem, _, last, hname, rfl | rfl, hlast⟩
    · exact Or.inl ⟨stem, last, hname, hlast⟩
    · exact Or.inr ⟨stem, last, hname, hlast⟩

theorem lower_of_mem_words {w : String} (h : w ∈ words) : w.toList.map Char.toLower = w.toList := by
  revert w
  decide

theorem isSecretName_iff (name : String) : isSecretName name = true ↔ NamesSecret name := by
  rw [isSecretName, List.any_eq_true, NamesSecret]
  refine exists_congr fun w => and_congr_right fun hw => ?_
  exact matchesWord_iff (lower_of_mem_words hw)

theorem isSecretName_eq_false_iff (name : String) :
    isSecretName name = false ↔ ¬ NamesSecret name := by
  rw [← isSecretName_iff, Bool.not_eq_true]

/-! ## The search -/

theorem memberPath?_eq_none_iff (path : String) (members : List (String × Json)) :
    memberPath? path members = none ↔
      ∀ m ∈ members, isSecretName m.1 = false ∧ path? (memberPath path m.1) m.2 = none := by
  induction members with
  | nil => simp [memberPath?]
  | cons m rest ih =>
    obtain ⟨name, v⟩ := m
    rw [List.forall_mem_cons, ← ih, memberPath?]
    cases isSecretName name with
    | true => simp
    | false =>
      cases path? (memberPath path name) v with
      | none => simp
      | some found => simp

theorem itemPath?_eq_none_iff (path : String) (i : Nat) (items : List Json) :
    itemPath? path i items = none ↔ ∀ n v, items[n]? = some v →
    path? (itemPath path (i + n)) v = none := by
  induction items generalizing i with
  | nil => simp [itemPath?]
  | cons v rest ih =>
    -- The item at hand has the index of the search, and the others are counted from the next one.
    have hnext (n : Nat) : i + (n + 1) = i + 1 + n := by omega
    have hsplit : (∀ n w, (v :: rest)[n]? = some w → path? (itemPath path (i + n)) w = none) ↔
        path? (itemPath path i) v = none ∧ itemPath? path (i + 1) rest = none := by
      rw [ih]
      constructor
      · intro h
        exact ⟨h 0 v rfl, fun n w hw => hnext n ▸ h (n + 1) w hw⟩
      · rintro ⟨hfirst, hrest⟩ n w hw
        cases n with
        | zero =>
          obtain rfl : v = w := Option.some.inj hw
          exact hfirst
        | succ n => exact hnext n ▸ hrest n w hw
    rw [hsplit, itemPath?]
    cases path? (itemPath path i) v with
    | none => simp
    | some found => simp

/-- **The search finds nothing exactly when there is nothing to be found**, wherever it begins. -/
theorem path?_eq_none_iff (path : String) (v : Json) :
    path? path v = none ↔ ∀ name, v.HasName name → ¬ NamesSecret name := by
  match v with
  | .object members =>
    rw [path?, memberPath?_eq_none_iff]
    constructor
    · intro h name hname
      cases hname with
      | here mem => exact (isSecretName_eq_false_iff name).mp (h _ mem).1
      | member mem inner => exact (path?_eq_none_iff _ _).mp (h _ mem).2 name inner
    · intro h m hm
      refine ⟨(isSecretName_eq_false_iff m.1).mpr (h m.1 (.here hm)), ?_⟩
      exact (path?_eq_none_iff _ m.2).mpr fun name inner => h name (.member hm inner)
  | .list items =>
    rw [path?, itemPath?_eq_none_iff]
    constructor
    · intro h name hname
      cases hname with
      | item mem inner =>
        obtain ⟨n, hn⟩ := List.mem_iff_getElem?.mp mem
        exact (path?_eq_none_iff _ _).mp (h n _ hn) name inner
    · intro h n w hw
      have hmem : w ∈ items := List.mem_of_getElem? hw
      exact (path?_eq_none_iff _ w).mpr fun name inner => h name (.item hmem inner)
  | .null | .bool _ | .int _ | .float _ | .text _ => exact iff_of_true rfl (by rintro _ ⟨⟩)
termination_by v
decreasing_by
  · exact Json.sizeOf_lt_of_member mem
  · exact Json.sizeOf_lt_of_member hm
  · exact Json.sizeOf_lt_of_item mem
  · exact Json.sizeOf_lt_of_item hmem

example : path? ""
    (.object [("config", .object [("db", .list [.object [("DB_Password", .text "x")]])])]) =
      some "config.db[0].DB_Password" := by decide +kernel

end Secret

end Journal
