import Journal.Json.Canonical
import Journal.Json.Reader
import Journal.Proofs.Decimal.Double

/-!
# Numbers in canonical text

The text of a number is read back as the numeral that was written (`readNumeral_append`), and the
canonical layout writes a numeral for the shortest decimal of a double (`exists_numeral`). **The
text therefore tells which double it was written for, and where it ends** (`canonicalFloat_told`),
provided that what follows cannot continue a number; zero has one text whatever its sign.
-/

namespace Journal.Json

open Decimal

variable {ds rest r s : List Char} {fraction : Option (List Char)} {exponent : Option Int}
  {n : Numeral} {d : Decimal} {k : Nat} {x y : Float}

/-! ## Digits -/

theorem digitsValue_eq (ds : List Char) : digitsValue ds = Nat.ofDigitChars 10 ds 0 := by
  rw [Nat.ofDigitChars_eq_foldl, digitsValue]
  simp only [Nat.mul_comm]

theorem digitsValue_zeros_append (k : Nat) (ds : List Char) :
    digitsValue (List.replicate k '0' ++ ds) = digitsValue ds := by
  rw [digitsValue_eq, digitsValue_eq, Nat.ofDigitChars_append,
    Nat.ofDigitChars_replicate_zero, Nat.mul_zero]

theorem digitsValue_append_zeros (k : Nat) (ds : List Char) :
    digitsValue (ds ++ List.replicate k '0') = 10 ^ k * digitsValue ds := by
  rw [digitsValue_eq, digitsValue_eq, Nat.ofDigitChars_append, Nat.ofDigitChars_replicate_zero]

theorem digitsValue_toDigits (m : Nat) : digitsValue (Nat.toDigits 10 m) = m := by
  rw [digitsValue_eq, Nat.ofDigitChars_ten_toDigits]

theorem isDigit_toDigits {m : Nat} : ∀ c ∈ Nat.toDigits 10 m, c.isDigit = true :=
  fun _ hc => Nat.isDigit_of_mem_toDigits (by decide) (by decide) hc

theorem isDigit_zeros : ∀ c ∈ List.replicate k '0', c.isDigit = true := by
  intro c hc
  rw [(List.mem_replicate.mp hc).2]
  decide

theorem head?_toDigits {m : Nat} (hpos : 0 < m) : (Nat.toDigits 10 m).head? ≠ some '0' := by
  induction m using Nat.strong_induction_on with
  | _ m ih =>
    by_cases hlt : m < 10
    · have hdigit : ∀ i < 10, 0 < i → i.digitChar ≠ '0' := by decide
      rw [Nat.toDigits_of_lt_base hlt, List.head?_cons, ne_eq, Option.some_inj]
      exact hdigit m hlt hpos
    · rw [Nat.toDigits_of_base_le (by decide) (by omega),
        List.head?_append_of_ne_nil _ Nat.toDigits_ne_nil]
      exact ih (m / 10) (by omega) (by omega)

theorem spanDigits_append (hds : ∀ c ∈ ds, c.isDigit = true)
    (hrest : ∀ c ∈ rest.head?, c.isDigit = false) :
    spanDigits (ds ++ rest) = (ds, rest) := by
  rw [spanDigits, List.takeWhile_append_of_pos hds, List.dropWhile_append_of_pos hds]
  cases rest with
  | nil => simp
  | cons c rest =>
    have hc := hrest c rfl
    simp [hc]

/-! ## Reading what was written -/

namespace Numeral

def value (n : Numeral) : ℚ :=
  signed n.negative
    (digitsValue (n.whole ++ n.fraction.getD []) * 10 ^
      (n.exponent.getD 0 - (n.fraction.getD []).length))

def signChars (negative : Bool) : List Char := if negative then ['-'] else []

def fractionChars : Option (List Char) → List Char
  | none => []
  | some ds => '.' :: ds

def exponentChars : Option Int → List Char
  | none => []
  | some e => 'e' :: (if e < 0 then ['-'] else ['+']) ++ Nat.toDigits 10 e.natAbs

def chars (n : Numeral) : List Char :=
  signChars n.negative ++ n.whole ++ fractionChars n.fraction ++ exponentChars n.exponent

/-- The numeral has digits where there must be some, and no needless zero before them. -/
structure Proper (n : Numeral) : Prop where
  whole_ne : n.whole ≠ []
  whole_digits : ∀ c ∈ n.whole, c.isDigit = true
  whole_lead : n.whole.head? = some '0' → n.whole = ['0']
  fraction_ne : n.fraction ≠ some []
  fraction_digits : ∀ ds, n.fraction = some ds → ∀ c ∈ ds, c.isDigit = true

end Numeral

/-- The character can continue a number. -/
def InNumeral (c : Char) : Prop := c.isDigit = true ∨ c = '.' ∨ c = 'e' ∨ c = 'E'

/-- A number that stands before the text ends there. -/
def Ends (rest : List Char) : Prop := ∀ c ∈ rest.head?, ¬ InNumeral c

theorem Ends.not_isDigit (hrest : Ends rest) : ∀ c ∈ rest.head?, c.isDigit = false :=
  fun c hc => Bool.eq_false_iff.mpr fun hdigit => hrest c hc (.inl hdigit)

theorem head_exponentChars (exponent : Option Int) (hrest : Ends rest) :
    ∀ c ∈ (Numeral.exponentChars exponent ++ rest).head?, c.isDigit = false ∧ c ≠ '.' := by
  cases exponent with
  | none => exact fun c hc => ⟨hrest.not_isDigit c hc, fun hdot => hrest c hc (.inr (.inl hdot))⟩
  | some e =>
    rintro c ⟨⟩
    decide

theorem head_fractionChars (fraction : Option (List Char))
    (hrest : ∀ c ∈ rest.head?, c.isDigit = false ∧ c ≠ '.') :
    ∀ c ∈ (Numeral.fractionChars fraction ++ rest).head?, c.isDigit = false := by
  cases fraction with
  | none => exact fun c hc => (hrest c hc).1
  | some ds =>
    rintro c ⟨⟩
    decide

theorem readFraction_append (hne : fraction ≠ some [])
    (hds : ∀ ds, fraction = some ds → ∀ c ∈ ds, c.isDigit = true)
    (hrest : ∀ c ∈ rest.head?, c.isDigit = false ∧ c ≠ '.') :
    readFraction (Numeral.fractionChars fraction ++ rest) = some (fraction, rest) := by
  cases fraction with
  | none =>
    rw [Numeral.fractionChars, List.nil_append]
    unfold readFraction
    split
    · exact absurd rfl (hrest _ rfl).2
    · rfl
  | some ds =>
    have hspan := spanDigits_append (hds ds rfl) fun c hc => (hrest c hc).1
    simp only [Numeral.fractionChars, List.cons_append, readFraction, hspan]
    cases ds with
    | nil => exact absurd rfl hne
    | cons c ds => rfl

theorem readExponent_append (exponent : Option Int) (hrest : Ends rest) :
    readExponent (Numeral.exponentChars exponent ++ rest) = some (exponent, rest) := by
  cases exponent with
  | none =>
    cases rest with
    | nil => rfl
    | cons c rest =>
      have hmark : ¬ (c = 'e' ∨ c = 'E') := fun h => hrest c rfl (.inr (.inr h))
      simp [Numeral.exponentChars, readExponent, hmark]
  | some e =>
    have hspan := spanDigits_append (isDigit_toDigits (m := e.natAbs)) hrest.not_isDigit
    have hvalue := digitsValue_toDigits e.natAbs
    obtain ⟨c, ds, hcons⟩ :=
      List.exists_cons_of_ne_nil (Nat.toDigits_ne_nil (n := e.natAbs) (b := 10))
    rw [hcons] at hspan hvalue
    rw [List.cons_append] at hspan
    simp only [Numeral.exponentChars, hcons, List.cons_append, readExponent]
    by_cases hneg : e < 0
    · simp [hneg, hspan, hvalue, abs_of_neg hneg]
    · simp [hneg, hspan, hvalue, abs_of_nonneg (not_lt.mp hneg)]

/-- Reading undoes writing. -/
theorem readNumeral_append (hn : n.Proper) (hrest : Ends rest) :
    readNumeral (n.chars ++ rest) = some (n, rest) := by
  obtain ⟨negative, whole, fraction, exponent⟩ := n
  have hexponent := readExponent_append exponent hrest
  have hafter := head_exponentChars exponent hrest
  have hfraction : readFraction (Numeral.fractionChars fraction ++ _) = some (fraction, _) :=
    readFraction_append hn.fraction_ne hn.fraction_digits hafter
  have hspan : spanDigits (whole ++ _) = (whole, _) :=
    spanDigits_append hn.whole_digits (head_fractionChars fraction hafter)
  obtain ⟨c, ds, rfl⟩ := List.exists_cons_of_ne_nil hn.whole_ne
  have hminus : c ≠ '-' := by
    rintro rfl
    exact absurd (hn.whole_digits '-' List.mem_cons_self) (by decide)
  have hlead : c = '0' → ds = [] := by
    rintro rfl
    exact (List.cons.inj (hn.whole_lead rfl)).2
  rw [List.cons_append] at hspan
  cases negative
  all_goals
    simp only [Numeral.chars, Numeral.signChars, List.append_assoc, List.cons_append]
    simp [readNumeral, hspan, hminus]
    split
    · next heq => cases heq
    · next heq =>
      cases heq
      cases hlead rfl
    · next heq =>
      cases heq
      simp [hfraction, hexponent]

theorem Numeral.head_chars (hn : n.Proper) : ∃ c cs, n.chars = c :: cs ∧
    (c = '-' ∨ c.isDigit = true) := by
  obtain ⟨c, cs, hwhole⟩ := List.exists_cons_of_ne_nil hn.whole_ne
  rw [Numeral.chars, Numeral.signChars, hwhole]
  split
  · exact ⟨_, _, rfl, .inl rfl⟩
  · exact ⟨_, _, rfl, .inr (hn.whole_digits c (hwhole ▸ List.mem_cons_self))⟩

theorem Numeral.mem_chars (hn : n.Proper) {c : Char} (hc : c ∈ n.chars) :
    InNumeral c ∨ c = '-' ∨ c = '+' := by
  simp only [Numeral.chars, List.mem_append] at hc
  rcases hc with ((hsign | hwhole) | hfraction) | hexponent
  · rw [Numeral.signChars] at hsign
    split at hsign <;> simp_all
  · exact .inl (.inl (hn.whole_digits c hwhole))
  · cases hds : n.fraction with
    | none => simp [hds, Numeral.fractionChars] at hfraction
    | some ds =>
      rw [hds, Numeral.fractionChars, List.mem_cons] at hfraction
      exact .inl (hfraction.elim (fun hdot => .inr (.inl hdot)) fun hmem =>
        .inl (hn.fraction_digits ds hds c hmem))
  · cases he : n.exponent with
    | none => simp [he, Numeral.exponentChars] at hexponent
    | some e =>
      simp only [he, Numeral.exponentChars, List.mem_cons, List.mem_append] at hexponent
      rcases hexponent with (rfl | hsign) | hdigit
      · exact .inl (.inr (.inr (.inl rfl)))
      · split at hsign <;> simp_all
      · exact .inl (.inl (isDigit_toDigits c hdigit))

/-! ## The canonical layout -/

structure DigitsOf (ds : List Char) (m : Nat) : Prop where
  ne_nil : ds ≠ []
  isDigit : ∀ c ∈ ds, c.isDigit = true
  head : ds.head? ≠ some '0'
  value : digitsValue ds = m

theorem digitsOf_toDigits {m : Nat} (hpos : 0 < m) : DigitsOf (Nat.toDigits 10 m) m :=
  ⟨Nat.toDigits_ne_nil, isDigit_toDigits, head?_toDigits hpos, digitsValue_toDigits m⟩

structure Numeral.Shows (n : Numeral) (d : Decimal) : Prop where
  proper : n.Proper
  positive : n.negative = false
  value : n.value = d.value

theorem Numeral.value_eq (hpositive : n.negative = false)
    (hdigits : digitsValue (n.whole ++ n.fraction.getD []) = d.digits)
    (hexponent : n.exponent.getD 0 - (n.fraction.getD []).length = d.exponent) :
    n.value = d.value := by
  rw [Numeral.value, Decimal.value, hpositive, hdigits, hexponent]
  rfl

/-- No point, and zeros up to where it would stand. -/
theorem shows_whole (h : DigitsOf ds d.digits) (hexponent : 0 ≤ d.exponent) :
    Numeral.Shows ⟨false, ds ++ List.replicate d.exponent.toNat '0', none, none⟩ d where
  proper := {
    whole_ne := by simp [h.ne_nil]
    whole_digits := List.forall_mem_append.mpr ⟨h.isDigit, isDigit_zeros⟩
    whole_lead := fun hhead => by
      rw [List.head?_append_of_ne_nil _ h.ne_nil] at hhead
      exact absurd hhead h.head
    fraction_ne := nofun
    fraction_digits := nofun }
  positive := rfl
  value := by
    have hpow : (10 : ℚ) ^ d.exponent = 10 ^ d.exponent.toNat := by
      rw [← zpow_natCast, Int.toNat_of_nonneg hexponent]
    simp [Numeral.value, signed, digitsValue_append_zeros, h.value, Decimal.value, hpow, mul_comm]

/-- A point among the digits. -/
theorem shows_point (h : DigitsOf ds d.digits) (hpos : 0 < k) (hlt : k < ds.length)
    (hk : (k : Int) = ds.length + d.exponent) :
    Numeral.Shows ⟨false, ds.take k, some (ds.drop k), none⟩ d where
  proper := {
    whole_ne := by simp [h.ne_nil, hpos.ne']
    whole_digits := fun c hc => h.isDigit c (List.mem_of_mem_take hc)
    whole_lead := fun hhead => by
      rw [List.head?_take, if_neg hpos.ne'] at hhead
      exact absurd hhead h.head
    fraction_ne := by simpa using hlt
    fraction_digits := by
      rintro _ ⟨⟩ c hc
      exact h.isDigit c (List.mem_of_mem_drop hc) }
  positive := rfl
  value := Numeral.value_eq rfl (by simp [h.value]) (by simp; omega)

/-- A zero, the point, and zeros before the digits. -/
theorem shows_small (h : DigitsOf ds d.digits) (hk : (k : Int) = -(ds.length + d.exponent)) :
    Numeral.Shows ⟨false, ['0'], some (List.replicate k '0' ++ ds), none⟩ d where
  proper := {
    whole_ne := nofun
    whole_digits := fun c hc => List.mem_singleton.mp hc ▸ rfl
    whole_lead := fun _ => rfl
    fraction_ne := by simp [h.ne_nil]
    fraction_digits := by
      rintro _ ⟨⟩
      exact List.forall_mem_append.mpr ⟨isDigit_zeros, h.isDigit⟩ }
  positive := rfl
  value := Numeral.value_eq rfl
    (by simpa [h.value, List.replicate_succ] using digitsValue_zeros_append (k + 1) ds)
    (by simp; omega)

/-- One digit before the point, and an exponent. -/
theorem shows_exponent {c : Char} (h : DigitsOf (c :: ds) d.digits) (hds : fraction.getD [] = ds)
    (hne : fraction ≠ some []) :
    Numeral.Shows ⟨false, [c], fraction, some (ds.length + d.exponent)⟩ d where
  proper := {
    whole_ne := nofun
    whole_digits := fun b hb => h.isDigit b (List.mem_singleton.mp hb ▸ List.mem_cons_self)
    whole_lead := fun hhead => absurd hhead h.head
    fraction_ne := hne
    fraction_digits := by
      rintro _ ⟨⟩ b hb
      exact h.isDigit b (List.mem_cons_of_mem _ (hds ▸ hb)) }
  positive := rfl
  value := Numeral.value_eq rfl (by rw [← h.value, ← hds]; rfl) (by rw [← hds]; simp)

/-- The canonical layout writes a numeral for the decimal. -/
theorem exists_numeral (d : Decimal) (hpos : 0 < d.digits) :
    ∃ n : Numeral, n.Shows d ∧ (Layout.canonical.digits d).toList = n.chars := by
  have h := digitsOf_toDigits hpos
  rw [Layout.digits]
  generalize Nat.toDigits 10 d.digits = ds at h ⊢
  simp only
  split
  · split
    · next hexponent =>
      refine ⟨_, shows_whole h hexponent, ?_⟩
      simp [Numeral.chars, Numeral.signChars, Numeral.fractionChars, Numeral.exponentChars,
        Layout.canonical]
    · split
      · refine ⟨_, shows_point h (k := (ds.length + d.exponent).toNat) (by omega) (by omega)
          (by omega), ?_⟩
        simp [Numeral.chars, Numeral.signChars, Numeral.fractionChars, Numeral.exponentChars]
      · refine ⟨_, shows_small h (k := (-(ds.length + d.exponent)).toNat) (by omega), ?_⟩
        simp [Numeral.chars, Numeral.signChars, Numeral.fractionChars, Numeral.exponentChars]
  · obtain ⟨c, ds, rfl⟩ := List.exists_cons_of_ne_nil h.ne_nil
    have hlength : ((c :: ds).length : Int) + d.exponent - 1 = ds.length + d.exponent := by
      rw [List.length_cons]
      omega
    rw [hlength]
    cases ds with
    | nil =>
      refine ⟨_, shows_exponent h (Option.getD_none) nofun, ?_⟩
      simp [Numeral.chars, Numeral.signChars, Numeral.fractionChars, Numeral.exponentChars,
        Layout.canonical, apply_ite String.toList]
    | cons b ds =>
      refine ⟨_, shows_exponent h (Option.getD_some) nofun, ?_⟩
      simp [Numeral.chars, Numeral.signChars, Numeral.fractionChars, Numeral.exponentChars,
        Layout.canonical, apply_ite String.toList]

/-! ## Doubles -/

theorem Numeral.Shows.exists_signed (h : n.Shows d) (negative : Bool) :
    ∃ m : Numeral, m.Proper ∧ m.chars = Numeral.signChars negative ++ n.chars ∧
    m.value = signed negative d.value := by
  refine ⟨{ n with negative }, ⟨h.proper.1, h.proper.2, h.proper.3, h.proper.4, h.proper.5⟩, ?_, ?_⟩
  · simp [Numeral.chars, h.positive, Numeral.signChars]
  · rw [← h.value, Numeral.value, Numeral.value, h.positive]
    rfl

theorem canonicalFloat_of_zero (h : (magnitude x).2 = .zero) : canonicalFloat x = ['0'] := by
  rcases hmagnitude : magnitude x with ⟨s, m⟩
  obtain rfl : m = .zero := by rw [← h, hmagnitude]
  rw [canonicalFloat, Layout.float?, hmagnitude]
  cases s <;> rfl

theorem exists_numeral_of_isFinite (hx : x.isFinite = true) :
    ∃ n : Numeral, n.Proper ∧ canonicalFloat x = n.chars ∧ n.value = shortestValue x := by
  rcases isFinite_iff.mp hx with h | ⟨b, h⟩
  · refine ⟨⟨false, ['0'], none, none⟩, ⟨nofun, by simp, fun _ => rfl, nofun, nofun⟩,
      canonicalFloat_of_zero h, ?_⟩
    rw [shortestValue_of_zero h]
    simp [Numeral.value, signed, digitsValue]
  · rcases hmagnitude : magnitude x with ⟨s, m⟩
    obtain rfl : m = .positive b := by rw [← h, hmagnitude]
    have hpos := Binary.digits_shortest_pos (isDouble_of_magnitude hmagnitude).pos
    obtain ⟨n, hn, hchars⟩ := exists_numeral b.shortest hpos
    obtain ⟨m, hproper, hsigned, hvalue⟩ := hn.exists_signed s
    refine ⟨m, hproper, ?_, hvalue.trans (shortestValue_of_positive hmagnitude).symm⟩
    rw [hsigned, canonicalFloat, Layout.float?, hmagnitude]
    cases s <;> simp [Numeral.signChars, hchars]

theorem canonicalFloat_congr (h : (x == y) = true) : canonicalFloat x = canonicalFloat y := by
  rcases beq_iff.mp h with ⟨hx, hy⟩ | ⟨hsame, -⟩
  · rw [canonicalFloat_of_zero hx, canonicalFloat_of_zero hy]
  · rw [canonicalFloat, canonicalFloat, Layout.float?, Layout.float?, hsame]

/-- **The text of a finite double tells which it is, and where it ends.** The text is read back as a
number that lies in the interval of one double only. -/
theorem canonicalFloat_told (hx : x.isFinite = true) (hy : y.isFinite = true) (hr : Ends r)
    (hs : Ends s) (h : canonicalFloat x ++ r = canonicalFloat y ++ s) :
    (x == y) = true ∧ r = s := by
  obtain ⟨n, hn, hchars, hvalue⟩ := exists_numeral_of_isFinite hx
  obtain ⟨m, hm, hchars', hvalue'⟩ := exists_numeral_of_isFinite hy
  have hread := readNumeral_append hn hr
  rw [← hchars, h, hchars', readNumeral_append hm hs] at hread
  cases hread
  exact ⟨beq_of_shortestValue_eq hx hy (hvalue.symm.trans hvalue'), rfl⟩

theorem head_canonicalFloat (hx : x.isFinite = true) :
    ∃ c cs, canonicalFloat x = c :: cs ∧ (c = '-' ∨ c.isDigit = true) := by
  obtain ⟨n, hn, hchars, -⟩ := exists_numeral_of_isFinite hx
  rw [hchars]
  exact Numeral.head_chars hn

theorem newline_notMem_canonicalFloat (hx : x.isFinite = true) : '\n' ∉ canonicalFloat x := by
  obtain ⟨n, hn, hchars, -⟩ := exists_numeral_of_isFinite hx
  intro hmem
  rw [hchars] at hmem
  have hchar := Numeral.mem_chars hn hmem
  simp [InNumeral] at hchar

end Journal.Json
