import Journal.Proofs.Decimal.Double

/-!
# Whole numbers as doubles

**A whole number of sixty-four bits is finite as a double** (`isFinite_ofInt`). A double is infinite
only if its last place is greater than `2 ^ 971`, and a step of the conversion moves the last place
by little: `Below k` bounds it by `2 ^ k` and is carried from the digits to the double.
-/

namespace Journal.Decimal

open Float.Model

/-- The number is finite, and its last place is at most `2 ^ k`. This bound is kept by rounding,
packing and multiplying by one, each with the same `k`, and that is all that is needed of them. -/
def Below (k : Int) : UnpackedFloat → Prop
  | .zero _ => True
  | .finite _ _ e _ => e ≤ k
  | .infinity _ => False
  | .notANumber => False

variable {u : UnpackedFloat} {x : Float} {m : Nat} {e k : Int} {s : UnpackedFloat.Sign}
  {a : UnpackedFloat.Accuracy}

theorem isFinite_of_below (hu : Below k u) : u.isFinite = true := by
  cases u with
  | zero s => rfl
  | finite s m e hm => rfl
  | infinity s => exact hu.elim
  | notANumber => exact hu.elim

/-! ## Rounding -/

theorem mantissa_shiftRight_le (em : UnpackedFloat.ExtendedMantissa) (n : Nat) :
    (em >>> n).mantissa ≤ em.mantissa := by
  change (n.repeat UnpackedFloat.ExtendedMantissa.shiftRightOne em).mantissa ≤ em.mantissa
  induction n with
  | zero => exact le_refl _
  | succ n ih =>
    rw [Nat.repeat]
    exact (Nat.div_le_self _ _).trans ih

theorem roundedMantissa_le (em : UnpackedFloat.ExtendedMantissa) :
    em.roundedMantissa ≤ em.mantissa + 1 := by
  rw [UnpackedFloat.ExtendedMantissa.roundedMantissa]
  unfold UnpackedFloat.Accuracy.roundToNearestEven
  split <;> omega

theorem shifted_mantissa_le (m : Nat) (e : Int) (a : UnpackedFloat.Accuracy) :
    (UnpackedFloat.shiftToTargetExponent Format.binary64 m e a).1.mantissa ≤ m := by
  refine (mantissa_shiftRight_le _ _).trans ?_
  unfold UnpackedFloat.ExtendedMantissa.ofMantissaAndAccuracy
  split <;> exact le_refl _

theorem minExponent_eq : Format.minExponent Format.binary64 = -1074 := rfl

theorem mantissaBits_eq : Format.mantissaBits Format.binary64 = 53 := rfl

theorem shifted_exponent_le (hm : m < 2 ^ 121) (he : e ≤ k) (hk : -1074 ≤ k) :
    (UnpackedFloat.shiftToTargetExponent Format.binary64 m e a).2 ≤ k + 68 := by
  have hlog : m.log2 ≤ 120 := by
    by_cases hzero : m = 0
    · rw [hzero]
      decide
    · exact Nat.le_of_lt_succ ((Nat.log2_lt hzero).mpr hm)
  simp only [UnpackedFloat.shiftToTargetExponent, UnpackedFloat.shiftToExponent,
    Format.targetExponent, totalExponent, minExponent_eq, mantissaBits_eq]
  omega

/-- The mantissa is shifted once, rounded, and shifted once more. -/
theorem below_round (hm : m < 2 ^ 120) (he : e ≤ k) (hk : -1074 ≤ k) :
    Below (k + 136) (UnpackedFloat.roundWithAccuracy Format.binary64 s m e a) := by
  have hfirst := shifted_exponent_le (a := a) (hm.trans (by norm_num)) he hk
  have hmantissa := shifted_mantissa_le m e a
  have hrounded := roundedMantissa_le (UnpackedFloat.shiftToTargetExponent Format.binary64 m e a).1
  have hbits : (UnpackedFloat.shiftToTargetExponent Format.binary64 m e a).1.roundedMantissa < 2 ^
    121 := by omega
  have hsecond := shifted_exponent_le (a := .exact) hbits hfirst (by omega)
  rw [UnpackedFloat.roundWithAccuracy]
  dsimp only
  split
  · trivial
  · exact hsecond.trans (by omega)

/-! ## Bits -/

theorem below_unpack {v : BitVec Format.binary64.numBits} (hk : -1074 ≤ k)
    (hones : v.toNat / 2 ^ 52 % 2 ^ 11 < 2047)
    (hpower : ((v.toNat / 2 ^ 52 % 2 ^ 11 : Nat) : Int) ≤ k + 1075) :
    Below k (UnpackedFloat.unpack Format.binary64 v) := by
  rw [UnpackedFloat.unpack, if_neg (unpackExponent_eq_ones.not.mpr hones.ne)]
  split
  · next hzero =>
    split
    · trivial
    · rw [Below, toNat_unpackExponent, unpackExponent_eq_zero.mp hzero]
      exact hk
  · rw [Below, toNat_unpackExponent]
    exact sub_le_iff_le_add.mpr hpower

theorem power_pack_le (hu : Below k u) (hk : -1074 ≤ k) (hk' : k ≤ 971) :
    (((UnpackedFloat.pack Format.binary64 u).toNat / 2 ^ 52 % 2 ^ 11 : Nat) : Int) ≤ k + 1075 := by
  have hbias : Format.exponentBias Format.binary64 = 1023 := rfl
  have hzero : (0 : Int) ≤ k + 1075 := by omega
  rw [← toNat_unpackExponent]
  cases u with
  | infinity s => exact hu.elim
  | notANumber => exact hu.elim
  | zero s =>
    rw [UnpackedFloat.pack, UnpackedFloat.packedZero, UnpackedFloat.unpackExponent_packComponents]
    simpa using hzero
  | finite s m e hm =>
    have he : e ≤ k := hu
    rw [UnpackedFloat.pack, hbias, if_neg (by simp; omega)]
    split
    · rw [UnpackedFloat.unpackExponent_packComponents]
      refine (Int.ofNat_le.mpr (Nat.mod_le _ _)).trans ?_
      simp only [Nat.cast_ofNat, Int.ofNat_toNat, sup_le_iff]
      omega
    · rw [UnpackedFloat.unpackExponent_packComponents]
      simpa using hzero

theorem below_pack (hu : Below k u) (hk : -1074 ≤ k) (hk' : k ≤ 971) :
    Below k (Float.Model.pack u).unpack := by
  have hpower := power_pack_le hu hk hk'
  have hones := hpower.trans (show k + 1075 ≤ 2046 by omega)
  exact below_unpack hk (Nat.lt_of_le_pred (by decide) (by exact_mod_cast hones)) hpower

theorem below_of_isFinite (hx : x.isFinite = true) : Below 971 x.toModel.unpack := by
  have hpower : x.toBits.toNat / 2 ^ 52 % 2 ^ 11 ≠ 2047 := by
    intro h
    rcases isFinite_iff.mp hx with hx | ⟨b, hx⟩ <;> simp only [magnitude, h, if_true] at hx
      <;> split at hx <;> cases hx
  have hlt : x.toBits.toNat / 2 ^ 52 % 2 ^ 11 < 2047 :=
    lt_of_le_of_ne (Nat.le_of_lt_succ (Nat.mod_lt _ (by decide))) hpower
  exact below_unpack (by decide) hlt (by exact_mod_cast Nat.le_of_lt_succ hlt)

theorem isFinite_neg (hx : x.isFinite = true) : (Float.neg x).isFinite = true := by
  have hu := below_of_isFinite hx
  refine isFinite_of_below (k := 971) (below_pack ?_ (by decide) (by decide))
  cases hunpack : x.toModel.unpack <;> rw [hunpack] at hu <;> exact hu

/-! ## The conversion -/

/-- A number that has more bits than a mantissa is rounded at once. -/
theorem below_ofScientific (hm : m < 2 ^ 64) :
    Below 136 (UnpackedFloat.ofScientific Format.binary64 m 0) := by
  rw [UnpackedFloat.ofScientific]
  split
  · trivial
  · have hlow : ¬ (0 : Int) < -((2 ^ Format.exponentBits Format.binary64 : Int) + m.log2) := by
      have : (0 : Int) ≤ 2 ^ Format.exponentBits Format.binary64 := by positivity
      omega
    rw [if_neg (by decide), if_neg hlow, if_pos (le_refl _), UnpackedFloat.mul]
    refine below_round (k := 0) ?_ ?_ ?_
    · rw [Int.toNat_zero, pow_zero, mul_one, Nat.shiftLeft_eq, mantissaBits_eq]
      omega
    · decide
    · decide

/-- A number of no more bits is scaled until it has all of them. -/
theorem below_ofUInt64 (hm : m < 2 ^ 53) :
    Below 136 (UnpackedFloat.ofUInt64 Format.binary64 m.toUInt64) := by
  have hsmall : m.toUInt64.toNat = m := by
    rw [Nat.toUInt64, UInt64.toNat_ofNat']
    omega
  rw [UnpackedFloat.ofUInt64, UnpackedFloat.ofNat, UnpackedFloat.ofInt,
    UnpackedFloat.normalize, hsmall]
  split
  · next hneg => exact absurd (compare_lt_iff_lt.mp hneg) (by omega)
  · trivial
  · rw [UnpackedFloat.round, UnpackedFloat.decreaseExponent]
    simp only [Format.targetExponent, totalExponent, minExponent_eq, mantissaBits_eq,
      Int.toNat_natCast]
    refine below_round (k := 0) ?_ (by omega) (by decide)
    rw [Nat.shiftLeft_eq]
    generalize hshift : Int.toNat _ = shift
    have hpow : 2 ^ shift ≤ 2 ^ 67 := Nat.pow_le_pow_right (by decide) (by omega)
    calc m * 2 ^ shift < 2 ^ 53 * 2 ^ 67 := Nat.mul_lt_mul_of_lt_of_le hm hpow (by positivity)
      _ = 2 ^ 120 := by norm_num

theorem unpack_one : (Float.ofBits 0x3FF0000000000000).toModel.unpack = .finite .positive (2 ^ 52)
    (-52) (by decide) :=
  rfl

/-- It is then multiplied by one. -/
theorem below_mul_one (hx : Below 136 x.toModel.unpack) :
    Below 220 (UnpackedFloat.mul Format.binary64 x.toModel.unpack
      (Float.ofBits 0x3FF0000000000000).toModel.unpack) := by
  have hbits : ∀ {t b}, magnitude x = (t, .positive b) → b.mantissa < 2 ^ 53 :=
    fun h => (isDouble_of_magnitude h).lt
  have hunpacks := unpacks x
  rw [unpack_one]
  generalize magnitude x = m at hunpacks hbits
  generalize x.toModel.unpack = u at hunpacks hx ⊢
  cases hunpacks with
  | zero t => trivial
  | infinite t => exact hx.elim
  | notANumber t => exact hx.elim
  | positive t b hpos =>
    have hexponent : b.exponent ≤ 136 := hx
    have hmantissa := hbits rfl
    rw [UnpackedFloat.mul]
    exact below_round (k := 84) (by omega) (by omega) (by decide)

theorem isFinite_ofNat (hm : m < 2 ^ 64) : (Float.ofNat m).isFinite = true := by
  change (Float.ofScientific m false 0).isFinite = true
  rw [Float.ofScientific]
  by_cases hsmall : m < 2 ^ 53
  · rw [dif_pos ⟨hsmall, by decide⟩]
    have hx : Below 136 m.toUInt64.toFloat.toModel.unpack :=
      below_pack (below_ofUInt64 hsmall) (by decide) (by decide)
    exact isFinite_of_below (below_pack (below_mul_one hx) (by decide) (by decide))
  · rw [dif_neg fun h => hsmall h.1]
    exact isFinite_of_below (below_pack (below_ofScientific hm) (by decide) (by decide))

/-- **A whole number of sixty-four bits is finite as a double.** -/
theorem isFinite_ofInt {n : Int} (hlow : -2 ^ 63 ≤ n) (hhigh : n < 2 ^ 64) :
    (Float.ofInt n).isFinite = true := by
  cases n with
  | ofNat m => exact isFinite_ofNat (by simpa using hhigh)
  | negSucc m => exact isFinite_neg (isFinite_ofNat (by omega))

end Journal.Decimal
