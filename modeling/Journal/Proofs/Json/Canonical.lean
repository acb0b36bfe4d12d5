import Journal.Proofs.Decimal.Finite
import Journal.Proofs.Json.Numeral
import Journal.Proofs.Json.Text

/-!
# Values and their canonical texts

**Two values have one canonical text exactly when they are alike** (`canonical_eq_iff`): equal up to
the order of members, at every depth, and up to numbers that are equal as doubles.

That the text tells the value is unambiguous reading. The first character tells the kind of a value
(`kindOf_canonical`) and the value tells where its text ends (`told_canonical`), so that texts with
commas between them are told apart one after the other; the texts that are taken apart are compared,
and not the values, because members have been sorted by then. That values that are alike have one
text is that members of distinct names have one order.
-/

namespace Journal.Json

open Decimal

def double? : Json → Option Float
  | .int n => some (Float.ofInt n)
  | .float x => some x
  | _ => none

mutual

/-- The value is one that a document can hold: whole numbers have sixty-four bits, the others are
finite, and no object has two members of one name. -/
def WellFormed : Json → Prop
  | .int n => -2 ^ 63 ≤ n ∧ n < 2 ^ 64
  | .float x => x.isFinite = true
  | .list items => WellFormedItems items
  | .object members => (members.map (·.1)).Nodup ∧ WellFormedMembers members
  | _ => True

def WellFormedItems : List Json → Prop
  | [] => True
  | v :: rest => WellFormed v ∧ WellFormedItems rest

def WellFormedMembers : List (String × Json) → Prop
  | [] => True
  | (_, v) :: rest => WellFormed v ∧ WellFormedMembers rest

end

mutual

/-- The values are equal up to the order of members at every depth, and up to numbers that are equal
as doubles. A whole number is alike to a double that it is rounded to, since canonical texts know
doubles only. -/
inductive Alike : Json → Json → Prop
  | null : Alike .null .null
  | bool (b : Bool) : Alike (.bool b) (.bool b)
  | number {v w : Json} {x y : Float} (hv : v.double? = some x) (hw : w.double? = some y)
      (h : (x == y) = true) :
    Alike v w
  | text (s : String) : Alike (.text s) (.text s)
  | list {as bs : List Json} (h : AlikeItems as bs) : Alike (.list as) (.list bs)
  | object {ms ns : List (String × Json)} (h : AlikeMembers ms ns) : Alike (.object ms) (.object ns)

inductive AlikeItems : List Json → List Json → Prop
  | nil : AlikeItems [] []
  | cons {a b : Json} {as bs : List Json} (h : Alike a b) (hrest : AlikeItems as bs) :
      AlikeItems (a :: as) (b :: bs)

inductive AlikeMembers : List (String × Json) → List (String × Json) → Prop
  | nil : AlikeMembers [] []
  | cons {k : String} {a b : Json} {ms : List (String × Json)} (ns ns' : List (String × Json))
      (h : Alike a b)
    (hrest : AlikeMembers ms (ns ++ ns')) : AlikeMembers ((k, a) :: ms) (ns ++ (k, b) :: ns')

end

variable {v w : Json} {as bs : List Json} {ms ns : List (String × Json)} {x y : Float}
  {r s t : List Char} {c : Char}

theorem wellFormedItems_iff : WellFormedItems as ↔ ∀ a ∈ as, a.WellFormed := by
  induction as with
  | nil => simp [WellFormedItems]
  | cons a as ih => simp [WellFormedItems, ih]

theorem wellFormedMembers_iff : WellFormedMembers ms ↔ ∀ m ∈ ms, m.2.WellFormed := by
  induction ms with
  | nil => simp [WellFormedMembers]
  | cons m ms ih => simp [WellFormedMembers, ih]

theorem WellFormed.isFinite (hv : v.WellFormed) (hx : v.double? = some x) : x.isFinite = true := by
  cases v with
  | int n =>
    cases hx
    exact isFinite_ofInt hv.1 hv.2
  | float y =>
    cases hx
    exact hv
  | null | bool | text | list | object => cases hx

theorem canonical_of_double (hx : v.double? = some x) : v.canonical = canonicalFloat x := by
  cases v <;> cases hx <;> rfl

theorem canonicalItems_eq (as : List Json) : canonicalItems as = as.map canonical := by
  induction as with
  | nil => rfl
  | cons a as ih => rw [canonicalItems, ih, List.map_cons]

theorem canonicalMembers_eq (ms : List (String × Json)) :
    canonicalMembers ms = ms.map fun m => (m.1, m.2.canonical) := by
  induction ms with
  | nil => rfl
  | cons m ms ih => rw [canonicalMembers, ih, List.map_cons]

def sortedMembers (ms : List (String × Json)) : List (String × List Char) :=
  (canonicalMembers ms).mergeSort memberLE

theorem sortedMembers_perm (ms : List (String × Json)) :
    (sortedMembers ms).Perm (canonicalMembers ms) :=
  List.mergeSort_perm _ _

theorem canonical_object (ms : List (String × Json)) :
    (object ms).canonical = '\x7b' :: (commaSeparated ((sortedMembers ms).map canonicalMember) ++
      ['\x7d']) := rfl

theorem commaSeparated_cons (t : List Char) (ts : List (List Char)) :
    commaSeparated (t :: ts) = t ++ ts.flatMap (',' :: ·) := by
  induction ts generalizing t with
  | nil => simp [commaSeparated]
  | cons u ts ih =>
    rw [commaSeparated, ih]
    simp

/-! ## The first character -/

inductive Kind
  | null
  | bool
  | number
  | text
  | list
  | object
  deriving DecidableEq, Repr

def kind : Json → Kind
  | .null => .null
  | .bool _ => .bool
  | .int _ => .number
  | .float _ => .number
  | .text _ => .text
  | .list _ => .list
  | .object _ => .object

theorem kind_eq_null : v.kind = .null ↔ v = .null := by cases v <;> simp [kind]

theorem kind_eq_bool : v.kind = .bool ↔ ∃ b, v = .bool b := by cases v <;> simp [kind]

theorem kind_eq_number : v.kind = .number ↔ ∃ x, v.double? = some x := by
  cases v <;> simp [kind, double?]

theorem kind_eq_text : v.kind = .text ↔ ∃ s, v = .text s := by cases v <;> simp [kind]

theorem kind_eq_list : v.kind = .list ↔ ∃ as, v = .list as := by cases v <;> simp [kind]

theorem kind_eq_object : v.kind = .object ↔ ∃ ms, v = .object ms := by cases v <;> simp [kind]

/-- The kind of the values whose texts begin with a character. -/
def kindOf (c : Char) : Option Kind :=
  if c = '-' ∨ c.isDigit = true then some .number
  else match c with
    | 'n' => some .null
    | 't' | 'f' => some .bool
    | '"' => some .text
    | '[' => some .list
    | '\x7b' => some .object
    | _ => none

theorem kindOf_canonicalFloat (hx : x.isFinite = true) :
    ∃ c cs, canonicalFloat x = c :: cs ∧ kindOf c = some .number := by
  obtain ⟨c, cs, h, hc⟩ := head_canonicalFloat hx
  exact ⟨c, cs, h, if_pos hc⟩

/-- The first character of a text tells the kind of the value. -/
theorem kindOf_canonical (hv : v.WellFormed) : ∃ c cs, v.canonical = c :: cs ∧
    kindOf c = some v.kind := by
  cases v with
  | null => exact ⟨_, _, rfl, rfl⟩
  | bool b => cases b <;> exact ⟨_, _, rfl, rfl⟩
  | int n => exact kindOf_canonicalFloat (isFinite_ofInt hv.1 hv.2)
  | float x => exact kindOf_canonicalFloat hv
  | text s => exact ⟨_, _, rfl, rfl⟩
  | list as => exact ⟨_, _, rfl, rfl⟩
  | object ms => exact ⟨_, _, rfl, rfl⟩

theorem kind_eq (hv : v.WellFormed) (hw : w.WellFormed) (h : v.canonical ++ r = w.canonical ++ s) :
    w.kind = v.kind := by
  obtain ⟨c, cs, hc, hkind⟩ := kindOf_canonical hv
  obtain ⟨d, ds, hd, hkind'⟩ := kindOf_canonical hw
  rw [hc, hd, List.cons_append, List.cons_append, List.cons.injEq] at h
  rw [h.1, hkind', Option.some_inj] at hkind
  exact hkind

/-! ## Texts with commas between them -/

theorem ends_nil : Ends [] := nofun

theorem ends_cons (hc : ¬ InNumeral c) : Ends (c :: r) := by
  rintro _ ⟨⟩
  exact hc

/-- A text of the kind is followed by no other than itself, wherever it stands first. Texts that
tell where they end can be written one after the other and taken apart again, and that is how the
text of a value is seen to determine it. -/
def Told (P : List Char → Prop) (t : List Char) : Prop :=
  ∀ {u r s}, P u → Ends r → Ends s → t ++ r = u ++ s → t = u ∧ r = s

def HasKind (t : List Char) : Prop := ∃ c cs, t = c :: cs ∧ kindOf c ≠ none

structure Closes (c : Char) : Prop where
  ends : ¬ InNumeral c
  ne_comma : c ≠ ','
  kind : kindOf c = none

theorem closes_list : Closes ']' := ⟨by simp [InNumeral], by decide, rfl⟩

theorem closes_object : Closes '\x7d' := ⟨by simp [InNumeral], by decide, rfl⟩

theorem HasKind.append_ne (ht : HasKind t) (hc : Closes c) : t ++ r ≠ c :: s := by
  obtain ⟨d, ds, rfl, hkind⟩ := ht
  intro h
  rw [(List.cons.inj h).1] at hkind
  exact hkind hc.kind

section

variable {P : List Char → Prop} {ts us : List (List Char)}

theorem ends_flatMap (hc : Closes c) : Ends (ts.flatMap (',' :: ·) ++ c :: r) := by
  cases ts with
  | nil => exact ends_cons hc.ends
  | cons t ts => exact ends_cons (by simp [InNumeral])

theorem flatMap_told (hts : ∀ t ∈ ts, Told P t) (hus : ∀ u ∈ us, P u) (hc : Closes c)
    (h : ts.flatMap (',' :: ·) ++ c :: r = us.flatMap (',' :: ·) ++ c :: s) : ts = us ∧ r = s := by
  induction ts generalizing us with
  | nil =>
    cases us with
    | nil => exact ⟨rfl, (List.cons.inj h).2⟩
    | cons u us => exact absurd (List.cons.inj h).1 hc.ne_comma
  | cons t ts ih =>
    cases us with
    | nil => exact absurd (List.cons.inj h).1.symm hc.ne_comma
    | cons u us =>
      rw [List.forall_mem_cons] at hts hus
      simp only [List.flatMap_cons, List.cons_append, List.append_assoc, List.cons.injEq,
        true_and] at h
      obtain ⟨rfl, hrest⟩ := hts.1 hus.1 (ends_flatMap hc) (ends_flatMap hc) h
      obtain ⟨rfl, rfl⟩ := ih hts.2 hus.2 hrest
      exact ⟨rfl, rfl⟩

/-- Texts with commas between them are told when each of them is. -/
theorem commaSeparated_told (hkind : ∀ t, P t → HasKind t) (hts : ∀ t ∈ ts, P t)
    (hus : ∀ u ∈ us, P u) (htold : ∀ t ∈ ts, Told P t) (hc : Closes c)
    (h : commaSeparated ts ++ c :: r = commaSeparated us ++ c :: s) :
    ts = us ∧ r = s := by
  cases ts with
  | nil =>
    cases us with
    | nil => exact ⟨rfl, (List.cons.inj h).2⟩
    | cons u us =>
      rw [commaSeparated_cons, List.append_assoc] at h
      exact absurd h.symm ((hkind u (hus u List.mem_cons_self)).append_ne hc)
  | cons t ts =>
    cases us with
    | nil =>
      rw [commaSeparated_cons, List.append_assoc] at h
      exact absurd h ((hkind t (hts t List.mem_cons_self)).append_ne hc)
    | cons u us =>
      rw [commaSeparated_cons, commaSeparated_cons] at h
      exact flatMap_told htold hus hc (by simpa using h)

end

/-! ## Where a text ends -/

def IsValue (t : List Char) : Prop := ∃ v : Json, v.WellFormed ∧ v.canonical = t

def IsMember (t : List Char) : Prop := ∃ m : String × List Char, IsValue m.2 ∧ canonicalMember m = t

theorem IsValue.hasKind (ht : IsValue t) : HasKind t := by
  obtain ⟨v, hv, rfl⟩ := ht
  obtain ⟨c, cs, hc, hkind⟩ := kindOf_canonical hv
  exact ⟨c, cs, hc, by simp [hkind]⟩

theorem IsMember.hasKind (ht : IsMember t) : HasKind t := by
  obtain ⟨m, -, rfl⟩ := ht
  exact ⟨_, _, rfl, nofun⟩

theorem Told.member {m : String × List Char} (hm : Told IsValue m.2) :
    Told IsMember (canonicalMember m) := by
  rintro _ r s ⟨n, hn, rfl⟩ hr hs h
  rw [canonicalMember, canonicalMember, List.append_assoc, List.append_assoc] at h
  obtain ⟨hname, hrest⟩ := writtenText_told h
  obtain ⟨hvalue, hrest⟩ := hm hn hr hs (List.cons.inj hrest).2
  exact ⟨congrArg canonicalMember (Prod.ext hname hvalue), hrest⟩

theorem isValue_of_mem (h : WellFormedItems as) : ∀ t ∈ canonicalItems as, IsValue t := by
  rw [canonicalItems_eq]
  exact List.forall_mem_map.mpr fun a ha => ⟨a, wellFormedItems_iff.mp h a ha, rfl⟩

theorem isMember_of_mem (h : WellFormedMembers ms) :
    ∀ t ∈ (sortedMembers ms).map canonicalMember, IsMember t := by
  refine List.forall_mem_map.mpr fun m hm => ⟨m, ?_, rfl⟩
  rw [sortedMembers, List.mem_mergeSort, canonicalMembers_eq] at hm
  obtain ⟨n, hn, rfl⟩ := List.mem_map.mp hm
  exact ⟨n.2, wellFormedMembers_iff.mp h n hn, rfl⟩

theorem numbers_told (hv : v.WellFormed) (hw : w.WellFormed) (hx : v.double? = some x)
    (hkind : w.kind = .number)
    (hr : Ends r) (hs : Ends s) (h : v.canonical ++ r = w.canonical ++ s) :
    v.canonical = w.canonical ∧ r = s := by
  obtain ⟨y, hy⟩ := kind_eq_number.mp hkind
  rw [canonical_of_double hx, canonical_of_double hy] at h ⊢
  obtain ⟨hsame, hrest⟩ := canonicalFloat_told (hv.isFinite hx) (hw.isFinite hy) hr hs h
  exact ⟨canonicalFloat_congr hsame, hrest⟩

theorem items_told (ha : WellFormedItems as) (hb : WellFormedItems bs)
    (htold : ∀ t ∈ canonicalItems as, Told IsValue t)
    (h : (list as).canonical ++ r = (list bs).canonical ++ s) :
    canonicalItems as = canonicalItems bs ∧ r = s := by
  refine commaSeparated_told (fun _ => IsValue.hasKind) (isValue_of_mem ha) (isValue_of_mem hb)
    htold closes_list ?_
  simpa [canonical] using h

theorem members_told (hm : WellFormedMembers ms) (hn : WellFormedMembers ns)
    (htold : ∀ m ∈ canonicalMembers ms, Told IsValue m.2)
    (h : (object ms).canonical ++ r = (object ns).canonical ++ s) :
    (sortedMembers ms).map canonicalMember = (sortedMembers ns).map canonicalMember ∧ r = s := by
  have hmembers : ∀ t ∈ (sortedMembers ms).map canonicalMember, Told IsMember t :=
    List.forall_mem_map.mpr fun m hm => Told.member (htold m ((sortedMembers_perm ms).subset hm))
  rw [canonical_object, canonical_object] at h
  exact commaSeparated_told (fun _ => IsMember.hasKind) (isMember_of_mem hm) (isMember_of_mem hn)
    hmembers closes_object (by simpa using h)

mutual

/-- The text of a value tells where it ends. -/
theorem told_canonical (v : Json) (hv : v.WellFormed) : Told IsValue v.canonical := by
  rintro _ r s ⟨w, hw, rfl⟩ hr hs h
  have hkind := kind_eq hv hw h
  match v, hkind with
  | .null, hkind =>
    obtain rfl := kind_eq_null.mp hkind
    exact ⟨rfl, List.append_cancel_left h⟩
  | .bool a, hkind =>
    obtain ⟨b, rfl⟩ := kind_eq_bool.mp hkind
    cases a <;> cases b <;> simp_all [canonical]
  | .int _, hkind => exact numbers_told hv hw rfl hkind hr hs h
  | .float _, hkind => exact numbers_told hv hw rfl hkind hr hs h
  | .text a, hkind =>
    obtain ⟨b, rfl⟩ := kind_eq_text.mp hkind
    obtain ⟨rfl, hrest⟩ := writtenText_told h
    exact ⟨rfl, hrest⟩
  | .list as, hkind =>
    obtain ⟨bs, rfl⟩ := kind_eq_list.mp hkind
    obtain ⟨hsame, hrest⟩ := items_told hv hw (told_items as hv) h
    exact ⟨by rw [canonical, canonical, hsame], hrest⟩
  | .object ms, hkind =>
    obtain ⟨ns, rfl⟩ := kind_eq_object.mp hkind
    obtain ⟨hsame, hrest⟩ := members_told hv.2 hw.2 (told_members ms hv.2) h
    exact ⟨by rw [canonical_object, canonical_object, hsame], hrest⟩

theorem told_items : ∀ as : List Json, WellFormedItems as → ∀ t ∈ canonicalItems as, Told IsValue t
  | [], _ => nofun
  | a :: as, h => List.forall_mem_cons.mpr ⟨told_canonical a h.1, told_items as h.2⟩

theorem told_members : ∀ ms : List (String × Json), WellFormedMembers ms →
    ∀ m ∈ canonicalMembers ms, Told IsValue m.2
  | [], _ => nofun
  | (_, v) :: ms, h => List.forall_mem_cons.mpr ⟨told_canonical v h.1, told_members ms h.2⟩

end

/-! ## Equal texts -/

theorem canonicalMember_injective : Function.Injective canonicalMember := by
  intro m n h
  obtain ⟨hname, hrest⟩ := writtenText_told h
  exact Prod.ext hname (List.cons.inj hrest).2

theorem alike_of_number (hv : v.WellFormed) (hw : w.WellFormed) (hx : v.double? = some x)
    (hkind : w.kind = .number) (h : v.canonical = w.canonical) : Alike v w := by
  obtain ⟨y, hy⟩ := kind_eq_number.mp hkind
  rw [canonical_of_double hx, canonical_of_double hy] at h
  have htold := canonicalFloat_told (hv.isFinite hx) (hw.isFinite hy) ends_nil ends_nil
    (congrArg (· ++ []) h)
  exact .number hx hy htold.1

theorem items_eq_of_canonical_eq (ha : WellFormedItems as) (hb : WellFormedItems bs)
    (h : (list as).canonical = (list bs).canonical) : canonicalItems as = canonicalItems bs :=
  (items_told ha hb (told_items as ha) (congrArg (· ++ []) h)).1

theorem perm_of_canonical_eq (hm : WellFormedMembers ms) (hn : WellFormedMembers ns)
    (h : (object ms).canonical = (object ns).canonical) :
    (canonicalMembers ms).Perm (canonicalMembers ns) := by
  have hsorted := (members_told hm hn (told_members ms hm) (congrArg (· ++ []) h)).1
  have hsame := canonicalMember_injective.list_map hsorted
  exact (sortedMembers_perm ms).symm.trans (hsame ▸ sortedMembers_perm ns)

mutual

theorem alike_of_canonical_eq (v w : Json) (hv : v.WellFormed) (hw : w.WellFormed)
    (h : v.canonical = w.canonical) : Alike v w := by
  have hkind := kind_eq hv hw (congrArg (· ++ []) h)
  match v, hkind with
  | .null, hkind =>
    obtain rfl := kind_eq_null.mp hkind
    exact .null
  | .bool a, hkind =>
    obtain ⟨b, rfl⟩ := kind_eq_bool.mp hkind
    obtain rfl : a = b := by cases a <;> cases b <;> simp_all [canonical]
    exact .bool a
  | .int _, hkind => exact alike_of_number hv hw rfl hkind h
  | .float _, hkind => exact alike_of_number hv hw rfl hkind h
  | .text a, hkind =>
    obtain ⟨b, rfl⟩ := kind_eq_text.mp hkind
    obtain ⟨rfl, -⟩ := writtenText_told (congrArg (· ++ []) h)
    exact .text a
  | .list as, hkind =>
    obtain ⟨bs, rfl⟩ := kind_eq_list.mp hkind
    exact .list (alikeItems_of_eq as bs hv hw (items_eq_of_canonical_eq hv hw h))
  | .object ms, hkind =>
    obtain ⟨ns, rfl⟩ := kind_eq_object.mp hkind
    exact .object (alikeMembers_of_perm ms ns hv.2 hw.2 (perm_of_canonical_eq hv.2 hw.2 h))

theorem alikeItems_of_eq (as bs : List Json) (ha : WellFormedItems as) (hb : WellFormedItems bs)
    (h : canonicalItems as = canonicalItems bs) : AlikeItems as bs := by
  match as, bs with
  | [], [] => exact .nil
  | a :: as, b :: bs =>
    obtain ⟨hfirst, hrest⟩ := List.cons.inj h
    exact .cons (alike_of_canonical_eq a b ha.1 hb.1 hfirst)
      (alikeItems_of_eq as bs ha.2 hb.2 hrest)

theorem alikeMembers_of_perm (ms ns : List (String × Json)) (hm : WellFormedMembers ms)
    (hn : WellFormedMembers ns) (h : (canonicalMembers ms).Perm (canonicalMembers ns)) :
    AlikeMembers ms ns := by
  match ms with
  | [] =>
    obtain rfl : ns = [] := by simpa [canonicalMembers_eq] using h.symm.eq_nil
    exact .nil
  | (k, a) :: ms =>
    have hmem : (k, a.canonical) ∈ canonicalMembers ns := h.subset List.mem_cons_self
    rw [canonicalMembers_eq] at hmem
    obtain ⟨⟨l, b⟩, hb, hsame⟩ := List.mem_map.mp hmem
    obtain ⟨rfl, hvalue⟩ := Prod.mk.inj hsame
    obtain ⟨ns, ns', rfl⟩ := List.append_of_mem hb
    have hrest : (canonicalMembers ms).Perm (canonicalMembers (ns ++ ns')) := by
      simp only [canonicalMembers_eq, List.map_append, List.map_cons] at h ⊢
      rw [hvalue] at h
      exact (h.trans List.perm_middle).cons_inv
    rw [wellFormedMembers_iff, List.forall_mem_append, List.forall_mem_cons] at hn
    have hothers : WellFormedMembers (ns ++ ns') :=
      wellFormedMembers_iff.mpr (List.forall_mem_append.mpr ⟨hn.1, hn.2.2⟩)
    exact .cons ns ns' (alike_of_canonical_eq a b hm.1 hn.2.1 hvalue.symm)
      (alikeMembers_of_perm ms (ns ++ ns') hm.2 hothers hrest)

end

/-! ## Values that are alike -/

section

variable {l l' : List (String × List Char)}

theorem memberLE_trans (m n o : String × List Char) (h : memberLE m n = true)
    (h' : memberLE n o = true) :
    memberLE m o = true :=
  Text.unitsLE_trans h h'

theorem memberLE_total (m n : String × List Char) : (memberLE m n || memberLE n m) = true :=
  Text.unitsLE_total

/-- Members of distinct names have one order. -/
theorem mergeSort_eq_of_perm (hnames : (l.map (·.1)).Nodup) (h : l.Perm l') :
    l.mergeSort memberLE = l'.mergeSort memberLE := by
  refine List.Perm.eq_of_pairwise ?_ (List.pairwise_mergeSort memberLE_trans memberLE_total l)
    (List.pairwise_mergeSort memberLE_trans memberLE_total l')
    ((List.mergeSort_perm _ _).trans (h.trans (List.mergeSort_perm _ _).symm))
  intro m n hm hn hle hle'
  rw [List.mem_mergeSort] at hm hn
  exact List.inj_on_of_nodup_map hnames hm (h.symm.subset hn) (Text.unitsLE_antisymm hle hle')

end

theorem names_canonicalMembers (ms : List (String × Json)) :
    (canonicalMembers ms).map (·.1) = ms.map (·.1) := by
  simp [canonicalMembers_eq]

mutual

theorem canonical_eq_of_alike {v w : Json} (hv : v.WellFormed) (h : Alike v w) :
    v.canonical = w.canonical := by
  match h with
  | .null => rfl
  | .bool _ => rfl
  | .number hx hy hsame =>
    rw [canonical_of_double hx, canonical_of_double hy]
    exact canonicalFloat_congr hsame
  | .text _ => rfl
  | .list hitems => rw [canonical, canonical, items_eq_of_alike hv hitems]
  | .object hmembers =>
    have hperm := perm_of_alike hv.2 hmembers
    rw [canonical_object, canonical_object, sortedMembers, sortedMembers,
      mergeSort_eq_of_perm _ hperm]
    rw [names_canonicalMembers]
    exact hv.1

theorem items_eq_of_alike {as bs : List Json} (ha : WellFormedItems as) (h : AlikeItems as bs) :
    canonicalItems as = canonicalItems bs := by
  match h with
  | .nil => rfl
  | .cons hfirst hrest =>
    rw [canonicalItems, canonicalItems, canonical_eq_of_alike ha.1 hfirst,
      items_eq_of_alike ha.2 hrest]

theorem perm_of_alike {ms ns : List (String × Json)} (hm : WellFormedMembers ms)
    (h : AlikeMembers ms ns) :
    (canonicalMembers ms).Perm (canonicalMembers ns) := by
  match h with
  | .nil => exact .nil
  | .cons _ _ hfirst hrest =>
    have hperm := perm_of_alike hm.2 hrest
    simp only [canonicalMembers_eq, List.map_append, List.map_cons] at hperm ⊢
    rw [canonical_eq_of_alike hm.1 hfirst]
    exact (hperm.cons _).trans List.perm_middle.symm

end

/-- **Two values have one canonical text exactly when they are alike.** One direction is read off
the text from its beginning, value by value; for the other the members are sorted by names that are
distinct, so that there is one order. -/
theorem canonical_eq_iff (hv : v.WellFormed) (hw : w.WellFormed) :
    v.canonical = w.canonical ↔ Alike v w :=
  ⟨alike_of_canonical_eq v w hv hw, canonical_eq_of_alike hv⟩

/-! ## Line breaks -/

theorem mem_commaSeparated {ts : List (List Char)} (h : c ∈ commaSeparated ts) :
    c = ',' ∨ ∃ t ∈ ts, c ∈ t := by
  cases ts with
  | nil => cases h
  | cons t ts =>
    rw [commaSeparated_cons, List.mem_append, List.mem_flatMap] at h
    rcases h with h | ⟨u, hu, h⟩
    · exact .inr ⟨t, List.mem_cons_self, h⟩
    · exact (List.mem_cons.mp h).imp_right fun h => ⟨u, List.mem_cons_of_mem t hu, h⟩

mutual

/-- The canonical text of a value has no line break. -/
theorem newline_notMem_canonical : ∀ v : Json, v.WellFormed → '\n' ∉ v.canonical
  | .null, _ => by decide
  | .bool b, _ => by cases b <;> decide
  | .int _, hv => newline_notMem_canonicalFloat (isFinite_ofInt hv.1 hv.2)
  | .float _, hv => newline_notMem_canonicalFloat hv
  | .text s, _ => newline_notMem_writtenText s
  | .list as, hv => by
    intro h
    have hitems : '\n' ∈ commaSeparated (canonicalItems as) := by simpa [canonical] using h
    rcases mem_commaSeparated hitems with h | ⟨t, ht, h⟩
    · cases h
    · exact newline_notMem_items as hv t ht h
  | .object ms, hv => by
    intro h
    have hmembers : '\n' ∈ commaSeparated ((sortedMembers ms).map canonicalMember) := by
      simpa [canonical_object] using h
    rcases mem_commaSeparated hmembers with h | ⟨t, ht, h⟩
    · cases h
    · obtain ⟨m, hm, rfl⟩ := List.mem_map.mp ht
      rw [canonicalMember, List.mem_append, List.mem_cons] at h
      rcases h with h | h | h
      · exact newline_notMem_writtenText m.1 h
      · cases h
      · exact newline_notMem_members ms hv.2 m ((sortedMembers_perm ms).subset hm) h

theorem newline_notMem_items : ∀ as : List Json, WellFormedItems as →
    ∀ t ∈ canonicalItems as, '\n' ∉ t
  | [], _ => nofun
  | a :: as, h =>
    List.forall_mem_cons.mpr ⟨newline_notMem_canonical a h.1, newline_notMem_items as h.2⟩

theorem newline_notMem_members :
    ∀ ms : List (String × Json), WellFormedMembers ms → ∀ m ∈ canonicalMembers ms, '\n' ∉ m.2
  | [], _ => nofun
  | (_, v) :: ms, h =>
    List.forall_mem_cons.mpr ⟨newline_notMem_canonical v h.1, newline_notMem_members ms h.2⟩

end

end Journal.Json
