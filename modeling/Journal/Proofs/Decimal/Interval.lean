import Journal.Decimal.Shortest
import Mathlib.Algebra.Order.Field.Basic
import Mathlib.Algebra.Order.Field.Rat
import Mathlib.Tactic.Linarith
import Mathlib.Tactic.Positivity
import Mathlib.Tactic.Ring
import Mathlib.Tactic.FieldSimp
import Mathlib.Data.Rat.Cast.Order

/-!
# The interval around a double

A double covers the numbers that are nearer to it than to any other double, and those half way to a
neighbour if its mantissa is even. **Two doubles cover no number in common** (`eq_of_covers`), and
**the shortest decimal of a double is one of the numbers that it covers** (`covers_shortest`). So
the decimal tells which double it was written for (`eq_of_shortest_value`); that it is short is of
no matter to that.

The search ends with a number that is covered for one of two reasons. Either it stopped at a point
of a grid that was tested, or it came down to a grid on which the double itself lies.
-/

namespace Journal.Decimal

def Decimal.value (d : Decimal) : ℚ := d.digits * 10 ^ d.exponent

namespace Binary

/-- The number is a positive double: it has all its bits, or the least exponent. -/
structure IsDouble (b : Binary) : Prop where
  pos : 0 < b.mantissa
  lt : b.mantissa < 2 * leastFull
  least : leastExponent ≤ b.exponent
  full : leastExponent < b.exponent → leastFull ≤ b.mantissa

def value (b : Binary) : ℚ := b.mantissa * 2 ^ b.exponent

def quarter (b : Binary) : ℚ := 2 ^ (b.exponent - 2)

def lower (b : Binary) : ℚ := (4 * b.mantissa - b.lowerQuarters) * b.quarter

def upper (b : Binary) : ℚ := (4 * b.mantissa + 2) * b.quarter

/-- The number lies in the interval around the double, whose ends belong to it when the mantissa is
even. These are the numbers that are read as the double, a tie being decided for the even
mantissa. -/
structure Covers (b : Binary) (x : ℚ) : Prop where
  lower_le : b.lower ≤ x
  le_upper : x ≤ b.upper
  inside : b.mantissa % 2 = 1 → b.lower < x ∧ x < b.upper

variable {b c : Binary} {x : ℚ} {k : Int}

theorem eq_iff : b = c ↔ b.exponent = c.exponent ∧ b.mantissa = c.mantissa := by
  cases b
  cases c
  rw [mk.injEq, and_comm]

theorem quarter_pos (b : Binary) : 0 < b.quarter := zpow_pos (by norm_num) _

theorem lowerQuarters_le (b : Binary) : b.lowerQuarters ≤ 2 := by
  rw [lowerQuarters]
  split <;> omega

theorem lowerQuarters_pos (b : Binary) : 0 < b.lowerQuarters := by
  rw [lowerQuarters]
  split <;> omega

theorem value_eq (b : Binary) : b.value = 4 * b.mantissa * b.quarter := by
  rw [value, quarter, zpow_sub₀ (by norm_num)]
  ring

theorem covers_value (b : Binary) : b.Covers b.value := by
  have hq := b.quarter_pos
  have hl : (0 : ℚ) < b.lowerQuarters := by exact_mod_cast b.lowerQuarters_pos
  have hbelow : b.lower < b.value := by
    rw [value_eq, lower]
    exact mul_lt_mul_of_pos_right (by linarith) hq
  have habove : b.value < b.upper := by
    rw [value_eq, upper]
    exact mul_lt_mul_of_pos_right (by linarith) hq
  exact ⟨hbelow.le, habove.le, fun _ => ⟨hbelow, habove⟩⟩

/-! ## Two doubles -/

/-- Where the last places are equal, a common number makes the mantissas the same or neighbours, of
which one is odd. -/
theorem not_covers_of_mantissa_lt (hexp : b.exponent = c.exponent) (hlt : b.mantissa < c.mantissa)
    (hb : b.Covers x) :
    ¬ c.Covers x := by
  intro hc
  have hquarter : c.quarter = b.quarter := by rw [quarter, quarter, hexp]
  have hends := hc.lower_le.trans hb.le_upper
  rw [lower, upper, hquarter, mul_le_mul_iff_left₀ b.quarter_pos, sub_le_iff_le_add] at hends
  have hclose : 4 * c.mantissa ≤ 4 * b.mantissa + 2 + c.lowerQuarters := by exact_mod_cast hends
  have hnear := c.lowerQuarters_le
  -- An end that two doubles share belongs to the even one only.
  have hapart : b.mantissa % 2 = 1 ∨ c.mantissa % 2 = 1 → c.lower < b.upper := by
    rintro (hodd | hodd)
    · exact hc.lower_le.trans_lt (hb.inside hodd).2
    · exact (hc.inside hodd).1.trans_le hb.le_upper
  have hstrict := hapart (by omega)
  rw [lower, upper, hquarter, mul_lt_mul_iff_left₀ b.quarter_pos, sub_lt_iff_lt_add] at hstrict
  have hapart : 4 * c.mantissa < 4 * b.mantissa + 2 + c.lowerQuarters := by exact_mod_cast hstrict
  omega

theorem two_mul_quarter_le (hlt : b.exponent < c.exponent) : 2 * b.quarter ≤ c.quarter := by
  have htwo : 2 * b.quarter = 2 ^ (b.exponent - 2 + 1) := by
    rw [quarter, zpow_add_one₀ (by norm_num), mul_comm]
  rw [htwo, quarter]
  exact zpow_le_zpow_right₀ (by norm_num) (by omega)

/-- The neighbour below a power of two has all its bits set. Its mantissa is odd, and so the end
that it shares with the power of two belongs to that. -/
theorem not_covers_of_exponent_lt (db : b.IsDouble) (dc : c.IsDouble)
    (hlt : b.exponent < c.exponent) (hb : b.Covers x) : ¬ c.Covers x := by
  intro hc
  have hpos := b.quarter_pos
  have hbig : leastExponent < c.exponent := db.least.trans_lt hlt
  have hfull : 4503599627370496 ≤ c.mantissa := dc.full hbig
  have hbits : b.mantissa < 2 * 4503599627370496 := db.lt
  have hnear : c.lowerQuarters ≤ 2 ∧ (c.mantissa = 4503599627370496 → c.lowerQuarters = 1) :=
    ⟨c.lowerQuarters_le, fun hleast => if_pos ⟨hleast, hbig⟩⟩
  have hlow : (0 : ℚ) ≤ 4 * c.mantissa - c.lowerQuarters := by
    rw [sub_nonneg]
    exact_mod_cast (by omega : c.lowerQuarters ≤ 4 * c.mantissa)
  have hdown : 2 * (4 * c.mantissa - c.lowerQuarters) * b.quarter ≤ c.lower := by
    rw [lower, mul_comm 2, mul_assoc]
    exact mul_le_mul_of_nonneg_left (two_mul_quarter_le hlt) hlow
  have hends := hdown.trans (hc.lower_le.trans hb.le_upper)
  rw [upper, mul_le_mul_iff_left₀ hpos, mul_sub, sub_le_iff_le_add] at hends
  have hclose : 2 * (4 * c.mantissa) ≤ 4 * b.mantissa + 2 + 2 * c.lowerQuarters := by
    exact_mod_cast hends
  have hstrict := hdown.trans_lt (hc.lower_le.trans_lt (hb.inside (by omega)).2)
  rw [upper, mul_lt_mul_iff_left₀ hpos, mul_sub, sub_lt_iff_lt_add] at hstrict
  have hapart : 2 * (4 * c.mantissa) < 4 * b.mantissa + 2 + 2 * c.lowerQuarters := by
    exact_mod_cast hstrict
  omega

/-- **Two doubles cover no number in common.** -/
theorem eq_of_covers (db : b.IsDouble) (dc : c.IsDouble) (hb : b.Covers x) (hc : c.Covers x) :
    b = c := by
  rcases lt_trichotomy b.exponent c.exponent with hlt | hexp | hlt
  · exact absurd hc (not_covers_of_exponent_lt db dc hlt hb)
  · rcases lt_trichotomy b.mantissa c.mantissa with hlt | hmant | hlt
    · exact absurd hc (not_covers_of_mantissa_lt hexp hlt hb)
    · exact eq_iff.mpr ⟨hexp, hmant⟩
    · exact absurd hb (not_covers_of_mantissa_lt hexp.symm hlt hc)
  · exact absurd hb (not_covers_of_exponent_lt dc db hlt hc)

/-! ## The shortest decimal -/

def factor (b : Binary) (k : Int) : ℚ := 2 ^ (2 - b.exponent).toNat * 10 ^ (-k).toNat

theorem factor_pos (b : Binary) (k : Int) : 0 < b.factor k := by
  rw [factor]
  positivity

theorem zpow_mul_pow_neg_toNat {a : ℚ} (ha : a ≠ 0) (n : Int) :
    a ^ n * a ^ (-n).toNat = a ^ n.toNat := by
  rw [← zpow_natCast a (-n).toNat, ← zpow_natCast a n.toNat, ← zpow_add₀ ha]
  congr 1
  omega

theorem scale_quarter (b : Binary) (k : Int) :
    ((b.scale k).quarter : ℚ) = b.quarter * b.factor k := by
  have hpow := zpow_mul_pow_neg_toNat (show (2 : ℚ) ≠ 0 by norm_num) (b.exponent - 2)
  rw [neg_sub] at hpow
  rw [scale, quarter, factor, ← mul_assoc, hpow]
  push_cast
  rfl

theorem scale_grid (b : Binary) (k : Int) : ((b.scale k).grid : ℚ) = 10 ^ k * b.factor k := by
  have hpow := zpow_mul_pow_neg_toNat (show (10 : ℚ) ≠ 0 by norm_num) k
  rw [scale, factor, mul_left_comm, hpow]
  push_cast
  rfl

/-- The test on whole numbers is the test on the numbers that are meant. -/
theorem covers_of_holds (hpos : 0 < b.mantissa) {n : Nat} (h : b.holds (b.scale k) n = true) :
    b.Covers (n * 10 ^ k) := by
  have hf := b.factor_pos k
  have hquarters : b.lowerQuarters ≤ 4 * b.mantissa := by
    have := b.lowerQuarters_le
    omega
  have hlower : (((4 * b.mantissa - b.lowerQuarters) * (b.scale k).quarter : Nat) : ℚ) =
      b.lower * b.factor k := by
    rw [Nat.cast_mul, Nat.cast_sub hquarters, scale_quarter, lower]
    push_cast
    ring
  have hupper :
      (((4 * b.mantissa + 2) * (b.scale k).quarter : Nat) : ℚ) = b.upper * b.factor k := by
    rw [Nat.cast_mul, scale_quarter, upper]
    push_cast
    ring
  have hpoint : ((n * (b.scale k).grid : Nat) : ℚ) = n * 10 ^ k * b.factor k := by
    rw [Nat.cast_mul, scale_grid, mul_assoc]
  rw [holds] at h
  split at h
  · next heven =>
    rw [Bool.and_eq_true, decide_eq_true_eq, decide_eq_true_eq] at h
    have hl := Nat.cast_le (α := ℚ).mpr h.1
    have hu := Nat.cast_le (α := ℚ).mpr h.2
    rw [hlower, hpoint, mul_le_mul_iff_left₀ hf] at hl
    rw [hupper, hpoint, mul_le_mul_iff_left₀ hf] at hu
    exact ⟨hl, hu, fun hodd => by omega⟩
  · rw [Bool.and_eq_true, decide_eq_true_eq, decide_eq_true_eq] at h
    have hl := Nat.cast_lt (α := ℚ).mpr h.1
    have hu := Nat.cast_lt (α := ℚ).mpr h.2
    rw [hlower, hpoint, mul_lt_mul_iff_left₀ hf] at hl
    rw [hupper, hpoint, mul_lt_mul_iff_left₀ hf] at hu
    exact ⟨hl.le, hu.le, fun _ => ⟨hl, hu⟩⟩

theorem holds_of_pointOn? {n : Nat} (h : b.pointOn? k = some n) : b.holds (b.scale k) n = true := by
  simp only [pointOn?] at h
  split at h
  · next hbelow habove =>
    cases h
    exact (Bool.and_eq_true_iff.mp hbelow).2
  · next hbelow habove =>
    cases h
    exact habove
  · cases h
  · next hbelow habove =>
    -- Both neighbours lie in the interval, so it does not matter here which of them is taken.
    have hboth := (Bool.and_eq_true_iff.mp hbelow).2
    split at h
    · cases h
      exact hboth
    · split at h
      · cases h
        exact habove
      · split at h
        · cases h
          exact hboth
        · cases h
          exact habove

/-- A double lies on every grid that is fine enough. -/
theorem grid_dvd (hk : k ≤ min b.exponent 0) :
    (b.scale k).grid ∣ 4 * b.mantissa * (b.scale k).quarter := by
  have hwhole : k.toNat = 0 := by omega
  have htwos : (2 - b.exponent).toNat ≤ 2 + ((b.exponent - 2).toNat + (-k).toNat) := by omega
  rw [scale, hwhole, pow_zero, mul_one, mul_assoc, mul_comm b.mantissa, ← mul_assoc]
  refine Dvd.dvd.mul_right ?_ _
  rw [show (10 : Nat) = 2 * 5 from rfl, mul_pow, ← mul_assoc, ← mul_assoc,
    show (4 : Nat) = 2 ^ 2 from rfl, ← pow_add, ← pow_add]
  exact (pow_dvd_pow 2 htwos).mul_right _

theorem value_of_fine (hk : k ≤ min b.exponent 0) :
    (Decimal.mk (4 * b.mantissa * (b.scale k).quarter / (b.scale k).grid) k).value = b.value := by
  have hf := b.factor_pos k
  have hcast := congrArg (Nat.cast (R := ℚ)) (Nat.div_mul_cancel (grid_dvd hk))
  rw [Nat.cast_mul, scale_grid, Nat.cast_mul, scale_quarter, ← mul_assoc, ← mul_assoc] at hcast
  have hsame := mul_right_cancel₀ hf.ne' hcast
  rw [Decimal.value, hsame, value_eq]
  push_cast
  rfl

/-- The induction is on the grids that are left; the last of them is fine enough. -/
theorem covers_search (hpos : 0 < b.mantissa) (steps : Nat) (hk : k - steps ≤ min b.exponent 0) :
    b.Covers (b.search steps k).value := by
  induction steps generalizing k with
  | zero =>
    rw [search, value_of_fine (by simpa using hk)]
    exact b.covers_value
  | succ steps ih =>
    rw [search]
    cases hpoint : b.pointOn? k with
    | some n => exact covers_of_holds hpos (holds_of_pointOn? hpoint)
    | none => exact ih (by push_cast at hk; omega)

/-- **The shortest decimal of a double is a number that it covers.** -/
theorem covers_shortest (hpos : 0 < b.mantissa) : b.Covers b.shortest.value :=
  covers_search hpos _ (by omega)

theorem eq_of_shortest_value (db : b.IsDouble) (dc : c.IsDouble)
    (h : b.shortest.value = c.shortest.value) : b = c :=
  eq_of_covers db dc (covers_shortest db.pos) (h ▸ covers_shortest dc.pos)

theorem pos_of_covers (hpos : 0 < b.mantissa) (h : b.Covers x) : 0 < x := by
  refine lt_of_lt_of_le (mul_pos ?_ b.quarter_pos) h.lower_le
  have hquarters : b.lowerQuarters < 4 * b.mantissa := by
    have := b.lowerQuarters_le
    omega
  rw [sub_pos]
  exact_mod_cast hquarters

theorem digits_shortest_pos (hpos : 0 < b.mantissa) : 0 < b.shortest.digits := by
  have hvalue := pos_of_covers hpos (covers_shortest hpos)
  rw [Decimal.value] at hvalue
  refine Nat.pos_of_ne_zero fun hzero => ?_
  rw [hzero, Nat.cast_zero, zero_mul] at hvalue
  exact lt_irrefl _ hvalue

end Binary

end Journal.Decimal
