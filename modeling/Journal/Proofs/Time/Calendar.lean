import Journal.Time.Calendar
import Mathlib.Tactic.IntervalCases

/-!
# Days and dates

**Every day has a date that exists, and the date tells the day** (`isValid_ofDays`,
`toDays_ofDays`).

Both are said of a year that begins in March, where the leap day comes last: its months are found
from the number of the day alone (`monthOf`), and the four hundred years of a cycle differ only in
whether there is a last day (`Splits.leap`).
-/

namespace Journal.Date

/-- The date of a day of a month, both counted from zero, in the year that begins in March of
`y`. -/
def fromMarch (y : Int) (m d : Nat) : Date :=
  let month := if m < 10 then m + 3 else m - 9
  ⟨if month ≤ 2 then y + 1 else y, month, d + 1⟩

def monthOf (day : Nat) : Nat := (5 * day + 2) / 153

/-- A day in its cycle of four hundred years, the hundred years, four years and year there, and the
day of this year. The last of four years has a leap day, unless it ends a hundred years that do not
end the cycle. -/
structure Splits (n cycle : Int) (century four year day : Nat) : Prop where
  total : n + epochOffset = cycle * 146097 +
    (century * 36524 + four * 1461 + year * 365 + day : Nat)
  century_le : century ≤ 3
  four_le : four ≤ 24
  year_le : year ≤ 3
  day_le : day ≤ 365
  leap : day = 365 → year = 3 ∧ (four = 24 → century = 3)

variable {n cycle y : Int} {century four year day m d : Nat}

theorem ofDays_eq (n : Int) :
    ∃ cycle century four year day, Splits n cycle century four year day ∧
      ofDays n = fromMarch (cycle * 400 + (century * 100 + four * 4 + year : Nat)) (monthOf day)
        (day - daysBefore (monthOf day)) := by
  refine ⟨_, _, _, _, _, ?_, rfl⟩
  simp only [epochOffset]
  constructor
  case total =>
    simp only [epochOffset]
    omega
  all_goals omega

theorem isValid_iff {date : Date} :
    date.isValid = true ↔ 1 ≤ date.day ∧ date.day ≤ monthLength date.year date.month := by
  simp [isValid]

theorem le_of_isValid {date : Date} (h : date.isValid = true) : date.month ≤ 12 ∧
    date.day ≤ 31 := by
  obtain ⟨hfirst, hlast⟩ := isValid_iff.mp h
  unfold monthLength at hlast
  split at hlast
  · split at hlast <;> omega
  · split at hlast
    · omega
    · split at hlast <;> omega

/-! ## The months of a year -/

theorem monthOf_lt (hday : day ≤ 365) : monthOf day < 12 := by
  simp only [monthOf]
  omega

theorem daysBefore_monthOf_le (day : Nat) : daysBefore (monthOf day) ≤ day := by
  simp only [daysBefore, monthOf]
  omega

theorem lt_daysBefore_succ (day : Nat) : day < daysBefore (monthOf day + 1) := by
  simp only [daysBefore, monthOf]
  omega

theorem toDays_fromMarch (hm : m < 12) :
    (fromMarch y m d).toDays =
      y / 400 * 146097 +
        ((y % 400).toNat * 365 + (y % 400).toNat / 4 - (y % 400).toNat / 100 +
          (daysBefore m + d) : Nat) -
        epochOffset := by
  have hyear : (if (fromMarch y m d).month ≤ 2 then (fromMarch y m d).year - 1
      else (fromMarch y m d).year) = y := by
    simp only [fromMarch]
    split <;> omega
  have hmonth : ((fromMarch y m d).month + 9) % 12 = m := by
    simp only [fromMarch]
    split <;> omega
  simp only [toDays, hyear, hmonth]
  rfl

/-- A month has the days that lie between its beginning and the next, and the last month, which has
no next one, those that the year leaves. -/
theorem isValid_fromMarch (hm : m < 12) (hd : daysBefore m + d < daysBefore (m + 1))
    (hday : daysBefore m + d ≤ 365) (hleap : daysBefore m + d = 365 → isLeapYear (y + 1) = true) :
    (fromMarch y m d).isValid = true := by
  simp only [isValid_iff, fromMarch]
  refine ⟨by omega, ?_⟩
  by_cases hlast : m = 11
  · subst hlast
    show d + 1 ≤ if isLeapYear (y + 1) then 29 else 28
    simp only [daysBefore] at hday hleap
    split
    · omega
    · next hcommon =>
      have hne : ¬ (153 * 11 + 2) / 5 + d = 365 := fun h => hcommon (hleap h)
      omega
  · have hm : m < 11 := by omega
    simp only [daysBefore] at hd
    interval_cases m <;> simp [monthLength] <;> omega

/-! ## Days and dates -/

theorem Splits.isLeapYear (h : Splits n cycle century four year day) (hlast : day = 365) :
    isLeapYear (cycle * 400 + (century * 100 + four * 4 + year : Nat) + 1) = true := by
  obtain ⟨hyear, hcentury⟩ := h.leap hlast
  have hfour := h.four_le
  have := h.century_le
  simp only [Date.isLeapYear, Bool.and_eq_true, Bool.or_eq_true, beq_iff_eq, bne_iff_ne]
  omega

theorem isValid_ofDays (n : Int) : (ofDays n).isValid = true := by
  obtain ⟨cycle, century, four, year, day, h, heq⟩ := ofDays_eq n
  have hbefore := Nat.add_sub_cancel' (daysBefore_monthOf_le day)
  rw [heq]
  refine isValid_fromMarch (monthOf_lt h.day_le) ?_ ?_ ?_ <;> rw [hbefore]
  · exact lt_daysBefore_succ day
  · exact h.day_le
  · exact h.isLeapYear

theorem toDays_ofDays (n : Int) : (ofDays n).toDays = n := by
  obtain ⟨cycle, century, four, year, day, h, heq⟩ := ofDays_eq n
  have hbefore := Nat.add_sub_cancel' (daysBefore_monthOf_le day)
  obtain ⟨htotal, hcentury, hfour, hyear, hday, -⟩ := h
  rw [heq, toDays_fromMarch (monthOf_lt hday), hbefore]
  have hcycle : (cycle * 400 + (century * 100 + four * 4 + year : Nat)) / 400 = cycle := by omega
  have hrest : ((cycle * 400 + (century * 100 + four * 4 + year : Nat)) % 400).toNat =
      century * 100 + four * 4 + year := by omega
  rw [hcycle, hrest]
  omega

end Journal.Date
