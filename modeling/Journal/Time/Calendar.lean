/-!
# The calendar

Days are counted from 1970-01-01 in the Gregorian calendar, which is taken to hold at all times. A
year is thought to begin in March, so that a leap day is its last day: four hundred years then have
146097 days, of which each hundred but the last has 36524, each four but the last 1461 and each year
but the last 365.
-/

namespace Journal

structure Date where
  year : Int
  month : Nat
  day : Nat
  deriving DecidableEq, Repr

namespace Date

/-- A year with a twenty-ninth of February. -/
def isLeapYear (y : Int) : Bool :=
  y % 4 == 0 && (y % 100 != 0 || y % 400 == 0)

/-- The number of days of a month, zero for a number that is no month. -/
def monthLength (y : Int) (m : Nat) : Nat :=
  if m = 2 then (if isLeapYear y then 29 else 28)
  else if m = 4 ∨ m = 6 ∨ m = 9 ∨ m = 11 then 30
  else if 1 ≤ m ∧ m ≤ 12 then 31
  else 0

def isValid (d : Date) : Bool :=
  1 ≤ d.day && d.day ≤ monthLength d.year d.month

/-- Days from March 1st of the year zero to 1970-01-01. -/
def epochOffset : Int := 719468

/-- Days before a month, in a year that begins in March. The leap day is the last day of such a
year, so that the months before it are the same in every year; March is month zero. -/
def daysBefore (m : Nat) : Nat := (153 * m + 2) / 5

def toDays (d : Date) : Int :=
  let y : Int := if d.month ≤ 2 then d.year - 1 else d.year
  let cycle := y / 400
  let yearOfCycle := (y % 400).toNat
  let m := (d.month + 9) % 12
  let dayOfYear := daysBefore m + d.day - 1
  let dayOfCycle := yearOfCycle * 365 + yearOfCycle / 4 - yearOfCycle / 100 + dayOfYear
  cycle * 146097 + dayOfCycle - epochOffset

def ofDays (n : Int) : Date :=
  let shifted := n + epochOffset
  let cycle := shifted / 146097
  let dayOfCycle := (shifted % 146097).toNat
  let century := min 3 (dayOfCycle / 36524)
  let dayOfCentury := dayOfCycle - century * 36524
  let four := dayOfCentury / 1461
  let dayOfFour := dayOfCentury - four * 1461
  let year := min 3 (dayOfFour / 365)
  let dayOfYear := dayOfFour - year * 365
  let m := (5 * dayOfYear + 2) / 153
  let month := if m < 10 then m + 3 else m - 9
  let y : Int := cycle * 400 + (century * 100 + four * 4 + year : Nat)
  ⟨if month ≤ 2 then y + 1 else y, month, dayOfYear - daysBefore m + 1⟩

end Date

end Journal
