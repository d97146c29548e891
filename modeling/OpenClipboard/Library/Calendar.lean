import Mathlib

/-!
# The proleptic Gregorian calendar

Days are counted from 1 January 1970, a Thursday; dates before it have negative
numbers.
-/

namespace OpenClipboard.Calendar

def IsLeapYear (year : Int) : Prop :=
  year % 4 = 0 ∧ (year % 100 ≠ 0 ∨ year % 400 = 0)

instance (year : Int) : Decidable (IsLeapYear year) :=
  inferInstanceAs (Decidable (_ ∧ _))

/-! ## Years -/

/-- The first day of a year. -/
def yearStart (year : Int) : Int :=
  365 * (year - 1970) + (year - 1) / 4 - (year - 1) / 100 +
    (year - 1) / 400 - 477

def yearDays (year : Int) : Int := if IsLeapYear year then 366 else 365

theorem yearStart_succ (year : Int) :
    yearStart (year + 1) = yearStart year + yearDays year := by
  unfold yearStart yearDays
  by_cases leap : IsLeapYear year
  · rw [if_pos leap]
    unfold IsLeapYear at leap
    omega
  · rw [if_neg leap]
    unfold IsLeapYear at leap
    omega

theorem yearStart_strictMono : StrictMono yearStart := by
  apply strictMono_int_of_lt_succ
  intro year
  have positive : 0 < yearDays year := by
    unfold yearDays
    split <;> omega
  rw [yearStart_succ]
  omega

/-- A year lasts a four-hundredth of 146097 days, up to two days. -/
theorem yearStart_bounds (year : Int) :
    146097 * (year - 1970) - 506 ≤ 400 * yearStart year ∧
      400 * yearStart year ≤ 146097 * (year - 1970) + 589 := by
  unfold yearStart
  omega

/-- Exact up to one year on either side, and then corrected. -/
def yearOf (day : Int) : Int :=
  let estimate := 1970 + day * 400 / 146097
  if day < yearStart estimate then estimate - 1
  else if yearStart (estimate + 1) ≤ day then estimate + 1
  else estimate

theorem yearOf_spec (day : Int) :
    yearStart (yearOf day) ≤ day ∧ day < yearStart (yearOf day + 1) := by
  unfold yearOf
  have previous := yearStart_bounds (1970 + day * 400 / 146097 - 1)
  have next := yearStart_bounds (1970 + day * 400 / 146097 + 1 + 1)
  simp only
  split_ifs with tooLate tooEarly
  · rw [Int.sub_add_cancel]
    omega
  · omega
  · omega

/-! ## Months -/

def monthDays (year : Int) : Nat → Int
  | 2 => if IsLeapYear year then 29 else 28
  | 4 | 6 | 9 | 11 => 30
  | _ => 31

theorem monthDays_pos (year : Int) (month : Nat) : 0 < monthDays year month := by
  unfold monthDays
  split
  · split <;> omega
  all_goals omega

/-- The days of the first months of a year. -/
def daysThrough (year : Int) : Nat → Int
  | 0 => 0
  | month + 1 => daysThrough year month + monthDays year (month + 1)

theorem daysThrough_strictMono (year : Int) : StrictMono (daysThrough year) := by
  apply strictMono_nat_of_lt_succ
  intro month
  have positive := monthDays_pos year (month + 1)
  rw [daysThrough]
  omega

theorem daysThrough_twelve (year : Int) : daysThrough year 12 = yearDays year := by
  unfold yearDays
  by_cases leap : IsLeapYear year
  · simp [daysThrough, monthDays, leap]
  · simp [daysThrough, monthDays, leap]

/-- The first day of a month. -/
def monthStart (year : Int) (month : Nat) : Int :=
  yearStart year + daysThrough year (month - 1)

structure InMonth (day year : Int) (month : Nat) : Prop where
  isMonth : 1 ≤ month ∧ month ≤ 12
  begins : monthStart year month ≤ day
  ends : day < yearStart year + daysThrough year month

namespace InMonth

variable {day year : Int} {month : Nat}

/-- The day is one of the year. -/
theorem inYear (inMonth : InMonth day year month) :
    yearStart year ≤ day ∧ day < yearStart (year + 1) := by
  have begins := inMonth.begins
  have ends := inMonth.ends
  have fromStart : daysThrough year 0 ≤ daysThrough year (month - 1) :=
    (daysThrough_strictMono year).monotone (Nat.zero_le _)
  have upToEnd : daysThrough year month ≤ daysThrough year 12 :=
    (daysThrough_strictMono year).monotone inMonth.isMonth.2
  rw [daysThrough] at fromStart
  rw [daysThrough_twelve] at upToEnd
  unfold monthStart at begins
  rw [yearStart_succ]
  omega

/-- A day is in one month. -/
theorem unique {otherYear : Int} {otherMonth : Nat}
    (inMonth : InMonth day year month)
    (inOther : InMonth day otherYear otherMonth) :
    year = otherYear ∧ month = otherMonth := by
  have isYear := inMonth.inYear
  have isOtherYear := inOther.inYear
  have notLater : year < otherYear + 1 :=
    yearStart_strictMono.lt_iff_lt.mp (isYear.1.trans_lt isOtherYear.2)
  have notEarlier : otherYear < year + 1 :=
    yearStart_strictMono.lt_iff_lt.mp (isOtherYear.1.trans_lt isYear.2)
  have sameYear : year = otherYear := by omega
  refine ⟨sameYear, ?_⟩
  rw [← sameYear] at inOther
  have begins := inMonth.begins
  have otherBegins := inOther.begins
  unfold monthStart at begins otherBegins
  have monthBefore : month - 1 < otherMonth :=
    (daysThrough_strictMono year).lt_iff_lt.mp
      (lt_of_add_lt_add_left (begins.trans_lt inOther.ends))
  have otherBefore : otherMonth - 1 < month :=
    (daysThrough_strictMono year).lt_iff_lt.mp
      (lt_of_add_lt_add_left (otherBegins.trans_lt inMonth.ends))
  have isMonth := inMonth.isMonth
  have isOtherMonth := inOther.isMonth
  omega

end InMonth

/-- The months of its year that a day is not before. -/
def monthOf (day : Int) : Nat :=
  Nat.findGreatest (fun month => monthStart (yearOf day) (month + 1) ≤ day) 11 +
    1

theorem inMonth_monthOf (day : Int) :
    InMonth day (yearOf day) (monthOf day) := by
  have isYear := yearOf_spec day
  have inJanuary : monthStart (yearOf day) (0 + 1) ≤ day := by
    unfold monthStart
    rw [Nat.zero_add, Nat.sub_self, daysThrough, Int.add_zero]
    exact isYear.1
  have latest : Nat.findGreatest
      (fun month => monthStart (yearOf day) (month + 1) ≤ day) 11 ≤ 11 :=
    Nat.findGreatest_le 11
  have begins : monthStart (yearOf day) (monthOf day) ≤ day :=
    Nat.findGreatest_spec (P := fun month =>
      monthStart (yearOf day) (month + 1) ≤ day) (Nat.zero_le 11) inJanuary
  refine ⟨⟨Nat.le_add_left 1 _, Nat.succ_le_succ latest⟩, begins, ?_⟩
  by_cases isDecember : monthOf day = 12
  · rw [isDecember, daysThrough_twelve, ← yearStart_succ]
    exact isYear.2
  · have later : monthOf day ≤ 11 := by
      unfold monthOf at isDecember ⊢
      omega
    have notNext := Nat.findGreatest_is_greatest (Nat.lt_succ_self _) later
    unfold monthStart at notNext
    exact Int.not_le.mp notNext

/-! ## Weeks -/

/-- 5 January 1970 was a Monday. -/
def IsMonday (day : Int) : Prop := day % 7 = 4

def IsSunday (day : Int) : Prop := day % 7 = 3

instance (day : Int) : Decidable (IsMonday day) :=
  inferInstanceAs (Decidable (_ = _))

instance (day : Int) : Decidable (IsSunday day) :=
  inferInstanceAs (Decidable (_ = _))

end OpenClipboard.Calendar
