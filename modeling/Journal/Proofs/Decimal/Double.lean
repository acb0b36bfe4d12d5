import Journal.Proofs.Decimal.Interval
import Mathlib

/-!
# Doubles and their decimals

What `magnitude` reads off the bits is what the double is (`unpacks`), so that two doubles are equal
exactly when they are both zero or have one magnitude and sign (`beq_iff`). With the interval around
a positive double this gives the fact on which everything written for a number rests: **finite
doubles with one signed shortest decimal are equal** (`beq_of_shortestValue_eq`).
-/

namespace Journal.Decimal

open Float.Model

variable {x y : Float} {v : BitVec Format.binary64.numBits}

/-! ## The fields of a double -/

theorem toNat_unpackMantissa (v : BitVec Format.binary64.numBits) :
    (UnpackedFloat.unpackMantissa v).toNat = v.toNat % 2 ^ 52 := by
  simp [UnpackedFloat.unpackMantissa]

theorem toNat_unpackExponent (v : BitVec Format.binary64.numBits) :
    (UnpackedFloat.unpackExponent v).toNat = v.toNat / 2 ^ 52 % 2 ^ 11 := by
  simp [UnpackedFloat.unpackExponent, Nat.shiftRight_eq_div_pow]

theorem toNat_unpackSign (v : BitVec Format.binary64.numBits) :
    (UnpackedFloat.unpackSign v).toNat = v.toNat / 2 ^ 63 % 2 := by
  simp [UnpackedFloat.unpackSign, Nat.shiftRight_eq_div_pow]

theorem unpackExponent_eq_ones :
    UnpackedFloat.unpackExponent v = -1#_ ↔ v.toNat / 2 ^ 52 % 2 ^ 11 = 2047 := by
  rw [← BitVec.toNat_inj, toNat_unpackExponent]
  rfl

theorem unpackExponent_eq_zero :
    UnpackedFloat.unpackExponent v = 0#_ ↔ v.toNat / 2 ^ 52 % 2 ^ 11 = 0 := by
  rw [← BitVec.toNat_inj, toNat_unpackExponent]
  rfl

theorem unpackMantissa_eq_zero : UnpackedFloat.unpackMantissa v = 0#_ ↔ v.toNat % 2 ^ 52 = 0 := by
  rw [← BitVec.toNat_inj, toNat_unpackMantissa]
  rfl

theorem toNat_append_unpackMantissa (v : BitVec Format.binary64.numBits) :
    (1#1 ++ UnpackedFloat.unpackMantissa v).toNat = Binary.leastFull + v.toNat % 2 ^ 52 := by
  rw [BitVec.toNat_append, toNat_unpackMantissa,
    ← Nat.shiftLeft_add_eq_or_of_lt (Nat.mod_lt _ (by decide))]
  rfl

def signOf (negative : Bool) : UnpackedFloat.Sign := if negative then .negative else .positive

theorem signOf_inj {s t : Bool} : signOf s = signOf t ↔ s = t := by
  cases s <;> cases t <;> simp [signOf]

theorem ofBitVec_unpackSign (v : BitVec Format.binary64.numBits) :
    UnpackedFloat.Sign.ofBitVec (UnpackedFloat.unpackSign v) =
      signOf (decide (2 ^ 63 ≤ v.toNat)) := by
  have hbound : v.toNat < 2 ^ 64 := v.isLt
  have hsign : UnpackedFloat.unpackSign v = 0#1 ↔ ¬ 2 ^ 63 ≤ v.toNat := by
    rw [← BitVec.toNat_inj, toNat_unpackSign]
    simp only [BitVec.toNat_ofNat]
    omega
  rw [UnpackedFloat.Sign.ofBitVec, signOf]
  by_cases h : 2 ^ 63 ≤ v.toNat
  · rw [if_neg (hsign.not.mpr (not_not.mpr h)), if_pos (decide_eq_true h)]
  · rw [if_pos (hsign.mpr h), if_neg (by simpa using h)]

/-! ## What a double is -/

/-- A sign and a magnitude are those of a double, in the library's model of it. The mantissa and the
exponent are the same in both, so that nothing is left to be computed once this is known. -/
inductive Unpacks : Bool × Magnitude → UnpackedFloat → Prop
  | zero (s : Bool) : Unpacks (s, .zero) (.zero (signOf s))
  | positive (s : Bool) (b : Binary) (hpos : 0 < b.mantissa) :
    Unpacks (s, .positive b) (.finite (signOf s) b.mantissa b.exponent hpos)
  | infinite (s : Bool) : Unpacks (s, .infinite) (.infinity (signOf s))
  | notANumber (s : Bool) : Unpacks (s, .notANumber) .notANumber

theorem Unpacks.finite {s : Bool} {b : Binary} {m : Nat} {e : Int} {hpos : 0 < m}
    (hm : m = b.mantissa) (he : e = b.exponent) :
    Unpacks (s, .positive b) (.finite (signOf s) m e hpos) := by
  subst hm he
  exact .positive s b hpos

/-- What is read off the bits of a double is what the double is. -/
theorem unpacks (x : Float) : Unpacks (magnitude x) x.toModel.unpack := by
  have hbits : x.toBits.toNat = x.toModel.toBits.toBitVec.toNat := rfl
  rw [magnitude, Float.Model.unpack, UnpackedFloat.unpack]
  simp only [hbits, ofBitVec_unpackSign]
  generalize x.toModel.toBits.toBitVec = v
  by_cases hones : v.toNat / 2 ^ 52 % 2 ^ 11 = 2047
  · rw [if_pos hones, if_pos (unpackExponent_eq_ones.mpr hones)]
    by_cases hfraction : v.toNat % 2 ^ 52 = 0
    · rw [if_pos hfraction, if_pos (unpackMantissa_eq_zero.mpr hfraction)]
      exact .infinite _
    · rw [if_neg hfraction, if_neg (unpackMantissa_eq_zero.not.mpr hfraction)]
      exact .notANumber _
  · rw [if_neg hones, if_neg (unpackExponent_eq_ones.not.mpr hones)]
    by_cases hzero : v.toNat / 2 ^ 52 % 2 ^ 11 = 0
    · rw [if_pos hzero, if_pos (unpackExponent_eq_zero.mpr hzero)]
      by_cases hfraction : v.toNat % 2 ^ 52 = 0
      · rw [if_pos hfraction, dif_pos (unpackMantissa_eq_zero.mpr hfraction)]
        exact .zero _
      · rw [if_neg hfraction, dif_neg (unpackMantissa_eq_zero.not.mpr hfraction)]
        refine .finite (toNat_unpackMantissa v) ?_
        rw [toNat_unpackExponent, hzero]
        rfl
    · rw [if_neg hzero, if_neg (unpackExponent_eq_zero.not.mpr hzero)]
      refine .finite (toNat_append_unpackMantissa v) ?_
      rw [toNat_unpackExponent]
      rfl

theorem isDouble_of_magnitude {s : Bool} {b : Binary} (h : magnitude x = (s, .positive b)) :
    b.IsDouble := by
  have hfraction : x.toBits.toNat % 2 ^ 52 < 2 ^ 52 := Nat.mod_lt _ (by decide)
  simp only [magnitude] at h
  split at h
  · split at h <;> cases h
  · split at h
    · split at h
      · cases h
      · next hne =>
        cases h
        exact ⟨Nat.pos_of_ne_zero hne, hfraction.trans (by decide), le_refl _, fun hlt =>
          absurd hlt (lt_irrefl _)⟩
    · next hpower =>
      cases h
      refine ⟨?_, ?_, ?_, ?_⟩ <;> dsimp only [Binary.leastFull, Binary.leastExponent] <;> omega

theorem Unpacks.isFinite_iff {m : Bool × Magnitude} {u : UnpackedFloat} (h : Unpacks m u) :
    u.isFinite = true ↔ m.2 = .zero ∨ ∃ b, m.2 = .positive b := by
  cases h <;> simp [UnpackedFloat.isFinite]

theorem isFinite_iff : x.isFinite = true ↔ (magnitude x).2 = .zero ∨
    ∃ b, (magnitude x).2 = .positive b :=
  (unpacks x).isFinite_iff

/-! ## Equality -/

theorem Unpacks.beq_iff {m n : Bool × Magnitude} {u w : UnpackedFloat} (hm : Unpacks m u)
    (hn : Unpacks n w) :
    u.beq w = true ↔ m.2 = .zero ∧ n.2 = .zero ∨ m = n ∧ m.2 ≠ .notANumber := by
  rw [UnpackedFloat.beq_iff_ne_notANumber_and_eq]
  cases hm with
  | zero s =>
    cases hn with
    | zero t => cases s <;> cases t <;> simp [signOf]
    | positive | infinite | notANumber => simp
  | positive s b => cases hn <;> simp [signOf_inj, Binary.eq_iff, and_comm]
  | infinite s => cases hn <;> simp [signOf_inj]
  | notANumber s => simp

theorem beq_iff : (x == y) = true ↔
    (magnitude x).2 = .zero ∧ (magnitude y).2 = .zero ∨ magnitude x = magnitude y ∧
    (magnitude x).2 ≠ .notANumber :=
  (unpacks x).beq_iff (unpacks y)

/-! ## The decimal of a double -/

def signed (negative : Bool) (q : ℚ) : ℚ := if negative then -q else q

theorem signed_ne_zero {s : Bool} {q : ℚ} (hq : 0 < q) : signed s q ≠ 0 := by
  cases s <;> simp [signed, hq.ne']

theorem signed_inj {s t : Bool} {p q : ℚ} (hp : 0 < p) (hq : 0 < q) (h : signed s p = signed t q) :
    s = t ∧ p = q := by
  cases s <;> cases t <;> simp [signed] at h ⊢ <;> linarith

def shortestValue (x : Float) : ℚ :=
  match magnitude x with
  | (s, .positive b) => signed s b.shortest.value
  | _ => 0

theorem shortestValue_of_zero (h : (magnitude x).2 = .zero) : shortestValue x = 0 := by
  rw [shortestValue]
  split
  · next heq => simp [heq] at h
  · rfl

theorem shortestValue_of_positive {s : Bool} {b : Binary} (h : magnitude x = (s, .positive b)) :
    shortestValue x = signed s b.shortest.value := by
  simp only [shortestValue, h]

/-- **The decimals of finite doubles tell them apart.** What is compared is the value with its sign,
so that the two zeros are one, as they are in their texts. -/
theorem beq_of_shortestValue_eq (hx : x.isFinite = true) (hy : y.isFinite = true)
    (h : shortestValue x = shortestValue y) : (x == y) = true := by
  have hpositive : ∀ {z : Float} {b : Binary}, (magnitude z).2 = .positive b →
      shortestValue z = signed (magnitude z).1 b.shortest.value ∧ 0 < b.shortest.value ∧
      b.IsDouble := by
    intro z b hz
    have hb := isDouble_of_magnitude (Prod.ext rfl hz : magnitude z = (_, .positive b))
    exact ⟨shortestValue_of_positive (Prod.ext rfl hz),
      Binary.pos_of_covers hb.pos (Binary.covers_shortest hb.pos), hb⟩
  rw [beq_iff]
  rcases isFinite_iff.mp hx with hx | ⟨b, hx⟩ <;> rcases isFinite_iff.mp hy with hy | ⟨c, hy⟩
  · exact .inl ⟨hx, hy⟩
  · obtain ⟨hvalue, hc, -⟩ := hpositive hy
    rw [shortestValue_of_zero hx, hvalue] at h
    exact absurd h.symm (signed_ne_zero hc)
  · obtain ⟨hvalue, hb, -⟩ := hpositive hx
    rw [shortestValue_of_zero hy, hvalue] at h
    exact absurd h (signed_ne_zero hb)
  · obtain ⟨hvalue, hb, db⟩ := hpositive hx
    obtain ⟨hvalue', hc, dc⟩ := hpositive hy
    rw [hvalue, hvalue'] at h
    obtain ⟨hsign, hsame⟩ := signed_inj hb hc h
    obtain rfl := Binary.eq_of_shortest_value db dc hsame
    exact .inr ⟨Prod.ext hsign (hx.trans hy.symm), by simp [hx]⟩

end Journal.Decimal
