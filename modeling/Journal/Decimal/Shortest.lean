import Journal.Power

/-!
# The shortest decimal that reads back

A positive binary floating-point number `m · 2 ^ q` is the nearest such number to every real in an
interval around it: half the gap to each neighbour, ends included when `m` is even. Its shortest
decimal is the point of the coarsest grid `10 ^ k` that lies in the interval and, of two such
points, the one nearer to the number.

If some point of a grid lies in the interval then one of the number's two neighbours on that grid
does, so only these two are tested. All arithmetic is exact, on natural numbers; the search goes
from coarse grids to fine ones and ends at the latest on the grid on which the number itself lies.
-/

namespace Journal.Decimal

structure Decimal where
  digits : Nat
  exponent : Int
  deriving DecidableEq, Repr

structure Binary where
  mantissa : Nat
  exponent : Int
  deriving DecidableEq, Repr

namespace Binary

def leastExponent : Int := -1074

def leastFull : Nat := 2 ^ 52

/-- The distance to the lower end of the interval in quarters of the last place. The neighbour below
a power of two is only half as far away as the one above, unless there are no smaller places left to
be had. -/
def lowerQuarters (b : Binary) : Nat :=
  if b.mantissa = leastFull ∧ leastExponent < b.exponent then 1 else 2

/-- Numbers brought to whole numbers for one grid: a quarter of the last place, and the step of the
grid. All comparisons of the search are then between natural numbers. -/
structure Scaled where
  quarter : Nat
  grid : Nat

def scale (b : Binary) (k : Int) : Scaled where
  quarter := 2 ^ (b.exponent - 2).toNat * 10 ^ (-k).toNat
  grid := 2 ^ (2 - b.exponent).toNat * 10 ^ k.toNat

def holds (b : Binary) (s : Scaled) (c : Nat) : Bool :=
  let lower := (4 * b.mantissa - b.lowerQuarters) * s.quarter
  let upper := (4 * b.mantissa + 2) * s.quarter
  let point := c * s.grid
  if b.mantissa % 2 = 0 then lower ≤ point && point ≤ upper else lower < point && point < upper

/-- The point of the grid `10 ^ k` in the interval that is nearest to the number, if there is one.
Of two points equally near the even one is taken. -/
def pointOn? (b : Binary) (k : Int) : Option Nat :=
  let s := b.scale k
  let value := 4 * b.mantissa * s.quarter
  let below := value / s.grid
  let above := below + 1
  match 0 < below && b.holds s below, b.holds s above with
  | true, false => some below
  | false, true => some above
  | false, false => none
  | true, true =>
    let toBelow := value - below * s.grid
    let toAbove := above * s.grid - value
    if toBelow < toAbove then some below
    else if toAbove < toBelow then some above
    else if below % 2 = 0 then some below
    else some above

/-- Search the grids from `10 ^ k` on towards finer ones, `steps` of them at most. -/
def search (b : Binary) : Nat → Int → Decimal
  | 0, k => ⟨4 * b.mantissa * (b.scale k).quarter / (b.scale k).grid, k⟩
  | steps + 1, k =>
    match b.pointOn? k with
    | some c => ⟨c, k⟩
    | none => b.search steps (k - 1)

/-- No grid coarser than `10 ^ coarsest` has a point near the number other than zero, so that the
search can start here. -/
def coarsest (b : Binary) : Int :=
  (b.mantissa.log2 + 1 + b.exponent) * 30103 / 100000 + 1

/-- The shortest decimal that reads back as the number. Among those of the fewest digits it is the
nearest, which the search finds first: it goes from coarse grids to fine ones and takes the nearest
point of the first that has any. -/
def shortest (b : Binary) : Decimal :=
  b.search (b.coarsest - min b.exponent 0).toNat b.coarsest

end Binary

inductive Magnitude
  | zero
  | positive (b : Binary)
  | infinite
  | notANumber
  deriving DecidableEq, Repr

/-- Read sign and magnitude off the bits of a double. -/
def magnitude (x : Float) : Bool × Magnitude :=
  let bits := x.toBits.toNat
  let sign := decide (2 ^ 63 ≤ bits)
  let power : Nat := bits / 2 ^ 52 % 2 ^ 11
  let fraction : Nat := bits % 2 ^ 52
  if power = 2047 then
    (sign, if fraction = 0 then .infinite else .notANumber)
  else if power = 0 then
    (sign, if fraction = 0 then .zero else .positive ⟨fraction, Binary.leastExponent⟩)
  else
    (sign, .positive ⟨Binary.leastFull + fraction, (power : Int) - 1075⟩)

end Journal.Decimal
