import OpenClipboard.Library.Calendar

/-!
# The time presets of a search

A preset becomes a pair of inclusive bounds, relative to the time of the query.
-/

namespace OpenClipboard.Search

open Calendar

/-! ## The bounds of a preset -/

inductive TimeRangeFilter where
  | today
  | yesterday
  | last24h
  | last7d
  | last30d
  | thisWeek
  | thisMonth
  | absolute (fromMs toMs : Nat)
  deriving DecidableEq, Repr

def msPerDay : Int := 86400000

/-- What is used of the calendar library.  It knows the dates up to some
instant. -/
structure Chrono where
  maxMillis : Int
  /-- The year and the month at a time, in milliseconds. -/
  fromTimestampMillis : Int → Option (Int × Nat)
  /-- The time of midnight on the first of a month. -/
  firstOfMonth : Int → Nat → Option Int
  epochMonth : 31 * msPerDay ≤ maxMillis
  date : ∀ ms, 0 ≤ ms → ms ≤ maxMillis → ∃ year month,
    fromTimestampMillis ms = some (year, month) ∧
      InMonth (ms / msPerDay) year month
  beyond : ∀ ms, maxMillis < ms → fromTimestampMillis ms = none
  midnight : ∀ year month, 1 ≤ month → month ≤ 12 →
    0 ≤ monthStart year month → monthStart year month * msPerDay ≤ maxMillis →
      firstOfMonth year month = some (monthStart year month * msPerDay)

/-- `value as u64` for an `i64`. -/
def asU64 (value : Int) : Nat := (value % 18446744073709551616).toNat

/-- Midnight of the day of a time. -/
def todayStartMs (nowMs : Int) : Int :=
  (nowMs.tdiv 1000 - (nowMs.tdiv 1000).tmod 86400) * 1000

/-- Where the time is not a date, the month is that of the epoch. -/
def monthStartMs (chrono : Chrono) (nowMs : Int) : Int :=
  match (chrono.fromTimestampMillis nowMs).getD (1970, 1) with
  | (year, month) => (chrono.firstOfMonth year month).getD (todayStartMs nowMs)

def resolveTimeRange (chrono : Chrono) (nowMs : Int) :
    TimeRangeFilter → Nat × Nat
  | .today => (asU64 (todayStartMs nowMs), asU64 nowMs)
  | .yesterday =>
      (asU64 (todayStartMs nowMs - msPerDay), asU64 (todayStartMs nowMs - 1))
  | .last24h => (asU64 (nowMs - msPerDay), asU64 nowMs)
  | .last7d => (asU64 (todayStartMs nowMs - 7 * msPerDay), asU64 nowMs)
  | .last30d => (asU64 (todayStartMs nowMs - 30 * msPerDay), asU64 nowMs)
  | .thisWeek =>
      let daysSinceEpoch := (todayStartMs nowMs).tdiv msPerDay
      let dayOfWeek := (daysSinceEpoch + 4).tmod 7
      (asU64 (todayStartMs nowMs - dayOfWeek * msPerDay), asU64 nowMs)
  | .thisMonth => (asU64 (monthStartMs chrono nowMs), asU64 nowMs)
  | .absolute fromMs toMs => (fromMs, toMs)

/-! ## What the presets mean -/

/-- The bounds are these. -/
def Denotes (range : Nat × Nat) (first last : Int) : Prop :=
  (range.1 : Int) = first ∧ (range.2 : Int) = last

/-- What is in the one range is in the other. -/
def Inside (range other : Nat × Nat) : Prop :=
  ∀ ms : Nat, range.1 ≤ ms → ms ≤ range.2 → other.1 ≤ ms ∧ ms ≤ other.2

/-- The presets are the intervals of their names, but for the week. -/
structure DayPresetsDenote (chrono : Chrono) (nowMs : Int) : Prop where
  today : Denotes (resolveTimeRange chrono nowMs .today)
    (nowMs / msPerDay * msPerDay) nowMs
  thisMonth : ∀ year month, InMonth (nowMs / msPerDay) year month →
    Denotes (resolveTimeRange chrono nowMs .thisMonth)
      (monthStart year month * msPerDay) nowMs
  yesterdayEnds : (resolveTimeRange chrono nowMs .yesterday).2 + 1 =
    (resolveTimeRange chrono nowMs .today).1
  yesterdayLasts : ((resolveTimeRange chrono nowMs .yesterday).2 : Int) + 1 -
    (resolveTimeRange chrono nowMs .yesterday).1 = msPerDay
  todayInWeek : Inside (resolveTimeRange chrono nowMs .today)
    (resolveTimeRange chrono nowMs .thisWeek)
  todayInMonth : Inside (resolveTimeRange chrono nowMs .today)
    (resolveTimeRange chrono nowMs .thisMonth)
  last24hInLast7d : Inside (resolveTimeRange chrono nowMs .last24h)
    (resolveTimeRange chrono nowMs .last7d)
  last7dInLast30d : Inside (resolveTimeRange chrono nowMs .last7d)
    (resolveTimeRange chrono nowMs .last30d)

/-- The week begins on its Monday. -/
structure PresetsDenote (chrono : Chrono) (nowMs : Int) : Prop extends
    DayPresetsDenote chrono nowMs where
  thisWeek : ∀ monday, IsMonday monday → monday ≤ nowMs / msPerDay →
    nowMs / msPerDay < monday + 7 →
      Denotes (resolveTimeRange chrono nowMs .thisWeek) (monday * msPerDay)
        nowMs

/-! ## The bounds by days -/

theorem asU64_of_nonneg {value : Int} (nonneg : 0 ≤ value)
    (isI64 : value < 9223372036854775808) : (asU64 value : Int) = value := by
  unfold asU64
  omega

theorem asU64_of_neg {value : Int} (negative : value < 0)
    (isI64 : -9223372036854775808 ≤ value) :
    (asU64 value : Int) = value + 18446744073709551616 := by
  unfold asU64
  omega

section Presets

variable {chrono : Chrono} {nowMs : Int}

theorem todayStartMs_eq (nonneg : 0 ≤ nowMs) :
    todayStartMs nowMs = nowMs / msPerDay * msPerDay := by
  have seconds : nowMs.tdiv 1000 = nowMs / 1000 :=
    Int.tdiv_eq_ediv_of_nonneg nonneg
  unfold todayStartMs msPerDay
  rw [seconds, Int.tmod_eq_emod_of_nonneg (by omega)]
  omega

theorem thisWeek_eq (nonneg : 0 ≤ nowMs) :
    resolveTimeRange chrono nowMs .thisWeek =
      (asU64 ((nowMs / msPerDay - (nowMs / msPerDay + 4) % 7) * msPerDay),
        asU64 nowMs) := by
  have day : 0 ≤ nowMs / msPerDay :=
    Int.ediv_nonneg nonneg (by decide)
  have sameDay : (nowMs / msPerDay * msPerDay).tdiv msPerDay =
      nowMs / msPerDay := Int.mul_tdiv_cancel _ (by decide)
  simp only [resolveTimeRange]
  rw [todayStartMs_eq nonneg, sameDay,
    Int.tmod_eq_emod_of_nonneg (by omega), Int.sub_mul]

theorem monthStartMs_eq {year : Int} {month : Nat} (nonneg : 0 ≤ nowMs)
    (known : nowMs ≤ chrono.maxMillis)
    (inMonth : InMonth (nowMs / msPerDay) year month) :
    monthStartMs chrono nowMs = monthStart year month * msPerDay ∧
      0 ≤ monthStart year month := by
  rcases chrono.date nowMs nonneg known with
    ⟨foundYear, foundMonth, found, inFound⟩
  rcases inFound.unique inMonth with ⟨sameYear, sameMonth⟩
  rw [sameYear, sameMonth] at found
  have begins := inMonth.begins
  have afterEpoch : 0 ≤ monthStart year month := by
    by_contra before
    have inJanuary : InMonth 0 1970 1 := ⟨by decide, by decide, by decide⟩
    have day : 0 ≤ nowMs / msPerDay := Int.ediv_nonneg nonneg (by decide)
    have inSame : InMonth 0 year month :=
      ⟨inMonth.isMonth, by omega, day.trans_lt inMonth.ends⟩
    rcases inSame.unique inJanuary with ⟨isYear, isMonth⟩
    rw [isYear, isMonth] at before
    exact before (by decide)
  have notLate : monthStart year month * msPerDay ≤ chrono.maxMillis := by
    have upTo : monthStart year month * msPerDay ≤
        nowMs / msPerDay * msPerDay :=
      Int.mul_le_mul_of_nonneg_right begins (by decide)
    have upToNow : nowMs / msPerDay * msPerDay ≤ nowMs :=
      Int.ediv_mul_le nowMs (by decide)
    omega
  refine ⟨?_, afterEpoch⟩
  unfold monthStartMs
  rw [found]
  simp only [Option.getD_some]
  rw [chrono.midnight year month inMonth.isMonth.1 inMonth.isMonth.2 afterEpoch
    notLate, Option.getD_some]

theorem monthStartMs_beyond (beyond : chrono.maxMillis < nowMs) :
    monthStartMs chrono nowMs = 0 := by
  have known := chrono.epochMonth
  have first := chrono.midnight 1970 1 (by decide) (by decide) (by decide)
    (by
      have isZero : monthStart 1970 1 * msPerDay = 0 := by decide
      have positive : 0 ≤ 31 * msPerDay := by decide
      omega)
  unfold monthStartMs
  rw [chrono.beyond nowMs beyond]
  simp only [Option.getD_none]
  rw [first, Option.getD_some]
  decide

/-! ## When the presets are right -/

theorem day_bounds (nowMs : Int) :
    nowMs / msPerDay * msPerDay ≤ nowMs ∧
      nowMs < nowMs / msPerDay * msPerDay + msPerDay := by
  unfold msPerDay
  omega

theorem weekStart_bounds (nonneg : 0 ≤ nowMs) :
    -(7 * msPerDay) ≤
        (nowMs / msPerDay - (nowMs / msPerDay + 4) % 7) * msPerDay ∧
      (nowMs / msPerDay - (nowMs / msPerDay + 4) % 7) * msPerDay ≤
        nowMs / msPerDay * msPerDay := by
  unfold msPerDay
  omega

theorem denotes_asU64 {first last : Int} (afterEpoch : 0 ≤ first)
    (inOrder : first ≤ last) (isI64 : last < 9223372036854775808) :
    Denotes (asU64 first, asU64 last) first last :=
  ⟨asU64_of_nonneg afterEpoch (by omega), asU64_of_nonneg (by omega) isI64⟩

theorem Denotes.inside {range other : Nat × Nat} {first earlier last : Int}
    (denotes : Denotes range first last)
    (otherDenotes : Denotes other earlier last)
    (inOrder : earlier ≤ first) : Inside range other := by
  rcases denotes with ⟨begins, ends⟩
  rcases otherDenotes with ⟨otherBegins, otherEnds⟩
  intro ms after before
  omega

theorem afterEpoch_of_inside {first earlier last : Int} (afterEpoch : 0 ≤ first)
    (inOrder : first ≤ last) (isI64 : last < 9223372036854775808)
    (otherIsI64 : -9223372036854775808 ≤ earlier)
    (isInside : Inside (asU64 first, asU64 last) (asU64 earlier, asU64 last)) :
    0 ≤ earlier := by
  by_contra negative
  have begins := asU64_of_nonneg afterEpoch (by omega)
  have ends := asU64_of_nonneg (afterEpoch.trans inOrder) isI64
  have wraps := asU64_of_neg (Int.not_le.mp negative) otherIsI64
  have inOther := (isInside (asU64 first) le_rfl (by simp only; omega)).1
  simp only at inOther
  omega

theorem dayPresetsDenote_of_known (late : 30 * msPerDay ≤ nowMs)
    (isI64 : nowMs < 9223372036854775808)
    (known : nowMs ≤ chrono.maxMillis) : DayPresetsDenote chrono nowMs := by
  have nonneg : 0 ≤ nowMs := le_trans (by decide) late
  have bounds := day_bounds nowMs
  have isDay : msPerDay = 86400000 := rfl
  have isToday := todayStartMs_eq nonneg
  have dayBegins : 30 * msPerDay ≤ nowMs / msPerDay * msPerDay := by
    unfold msPerDay at *
    omega
  have week := weekStart_bounds nonneg
  have weekBegins :
      0 ≤ (nowMs / msPerDay - (nowMs / msPerDay + 4) % 7) * msPerDay := by
    unfold msPerDay at *
    omega
  have isMonth : ∀ year month, InMonth (nowMs / msPerDay) year month →
      Denotes (resolveTimeRange chrono nowMs .thisMonth)
        (monthStart year month * msPerDay) nowMs := by
    intro year month inMonth
    rcases monthStartMs_eq nonneg known inMonth with ⟨isStart, afterEpoch⟩
    have begins : monthStart year month * msPerDay ≤
        nowMs / msPerDay * msPerDay :=
      Int.mul_le_mul_of_nonneg_right inMonth.begins (by decide)
    unfold resolveTimeRange
    simp only
    rw [isStart]
    exact denotes_asU64 (Int.mul_nonneg afterEpoch (by decide)) (by omega) isI64
  have today : Denotes (resolveTimeRange chrono nowMs .today)
      (nowMs / msPerDay * msPerDay) nowMs := by
    unfold resolveTimeRange
    simp only
    rw [isToday]
    exact denotes_asU64 (by omega) bounds.1 isI64
  have thisWeek : Denotes (resolveTimeRange chrono nowMs .thisWeek)
      ((nowMs / msPerDay - (nowMs / msPerDay + 4) % 7) * msPerDay) nowMs := by
    rw [thisWeek_eq nonneg]
    exact denotes_asU64 weekBegins (by omega) isI64
  have last24h : Denotes (resolveTimeRange chrono nowMs .last24h)
      (nowMs - msPerDay) nowMs :=
    denotes_asU64 (by omega) (by omega) isI64
  have last7d : Denotes (resolveTimeRange chrono nowMs .last7d)
      (todayStartMs nowMs - 7 * msPerDay) nowMs :=
    denotes_asU64 (by omega) (by omega) isI64
  have last30d : Denotes (resolveTimeRange chrono nowMs .last30d)
      (todayStartMs nowMs - 30 * msPerDay) nowMs :=
    denotes_asU64 (by omega) (by omega) isI64
  have yesterday : Denotes (resolveTimeRange chrono nowMs .yesterday)
      (todayStartMs nowMs - msPerDay) (todayStartMs nowMs - 1) :=
    denotes_asU64 (by omega) (by omega) (by omega)
  have inMonth := inMonth_monthOf (nowMs / msPerDay)
  have monthBegins := Int.mul_le_mul_of_nonneg_right inMonth.begins
    (show 0 ≤ msPerDay by decide)
  refine ⟨today, isMonth, ?_, ?_, ?_, ?_, ?_, ?_⟩
  · have begins := today.1
    have ends := yesterday.2
    omega
  · have begins := yesterday.1
    have ends := yesterday.2
    omega
  · exact today.inside thisWeek (by omega)
  · exact today.inside (isMonth _ _ inMonth) (by omega)
  · exact last24h.inside last7d (by omega)
  · exact last7d.inside last30d (by omega)

theorem known_of_dayPresetsDenote (nonneg : 0 ≤ nowMs)
    (isI64 : nowMs < 9223372036854775808)
    (denote : DayPresetsDenote chrono nowMs) :
    30 * msPerDay ≤ nowMs ∧ nowMs ≤ chrono.maxMillis := by
  have bounds := day_bounds nowMs
  have isDay : msPerDay = 86400000 := rfl
  have isToday := todayStartMs_eq nonneg
  constructor
  · have notFirstDay : todayStartMs nowMs ≠ 0 := by
      intro isFirst
      have ends := denote.yesterdayEnds
      unfold resolveTimeRange at ends
      simp only [isFirst] at ends
      exact absurd ends (by decide)
    have dayBegins : 0 ≤ nowMs / msPerDay * msPerDay ∧
        (nowMs / msPerDay * msPerDay = 0 ∨
          msPerDay ≤ nowMs / msPerDay * msPerDay) := by
      unfold msPerDay at *
      omega
    have aDayAgo := afterEpoch_of_inside (by omega) (by omega) isI64 (by omega)
      denote.last24hInLast7d
    have aWeekAgo := afterEpoch_of_inside aDayAgo (by omega) isI64 (by omega)
      denote.last7dInLast30d
    omega
  · by_contra beyond
    have inMonth := inMonth_monthOf (nowMs / msPerDay)
    have begins := (denote.thisMonth _ _ inMonth).1
    unfold resolveTimeRange at begins
    simp only at begins
    rw [monthStartMs_beyond (Int.not_le.mp beyond)] at begins
    have isZero : asU64 0 = 0 := by decide
    have startsAtEpoch : monthStart (yearOf (nowMs / msPerDay))
        (monthOf (nowMs / msPerDay)) = 0 := by
      unfold msPerDay at *
      omega
    have inJanuary : InMonth 0 1970 1 := ⟨by decide, by decide, by decide⟩
    have atEpoch : InMonth 0 (yearOf (nowMs / msPerDay))
        (monthOf (nowMs / msPerDay)) := by
      refine ⟨inMonth.isMonth, startsAtEpoch.le, ?_⟩
      have ends := inMonth.ends
      unfold msPerDay at *
      omega
    rcases atEpoch.unique inJanuary with ⟨isYear, isMonth⟩
    have ends := inMonth.ends
    rw [isYear, isMonth] at ends
    have firstMonth : yearStart 1970 + daysThrough 1970 1 = 31 := by decide
    have epochMonth := chrono.epochMonth
    unfold msPerDay at *
    omega

/-- The week of a preset begins on a Sunday, so that the presets are never all
right; the others are from the thirty-first day on, while the calendar library
knows the date. -/
theorem presetsDenote_never (chrono : Chrono) (nonneg : 0 ≤ nowMs)
    (isI64 : nowMs < 9223372036854775808) :
    ¬ PresetsDenote chrono nowMs ∧
      (∀ sunday, IsSunday sunday → 0 ≤ sunday → sunday ≤ nowMs / msPerDay →
        nowMs / msPerDay < sunday + 7 →
          Denotes (resolveTimeRange chrono nowMs .thisWeek) (sunday * msPerDay)
            nowMs) ∧
      (DayPresetsDenote chrono nowMs ↔
        30 * msPerDay ≤ nowMs ∧ nowMs ≤ chrono.maxMillis) := by
  have isDay : msPerDay = 86400000 := rfl
  have bounds := day_bounds nowMs
  have week := weekStart_bounds nonneg
  refine ⟨?_, ?_, ?_⟩
  · intro denote
    have begins := (denote.thisWeek
      (nowMs / msPerDay - (nowMs / msPerDay + 3) % 7)
      (by unfold IsMonday; omega) (by omega) (by omega)).1
    rw [thisWeek_eq nonneg] at begins
    simp only at begins
    by_cases afterEpoch :
        0 ≤ (nowMs / msPerDay - (nowMs / msPerDay + 4) % 7) * msPerDay
    · rw [asU64_of_nonneg afterEpoch (by omega)] at begins
      unfold msPerDay at *
      omega
    · rw [asU64_of_neg (Int.not_le.mp afterEpoch) (by omega)] at begins
      unfold msPerDay at *
      omega
  · intro sunday isSunday afterEpoch begins ends
    have isStart : nowMs / msPerDay - (nowMs / msPerDay + 4) % 7 = sunday := by
      unfold IsSunday at isSunday
      omega
    rw [isStart] at week
    have afterMidnight : 0 ≤ sunday * msPerDay :=
      Int.mul_nonneg afterEpoch (by decide)
    rw [thisWeek_eq nonneg, isStart]
    exact denotes_asU64 (by omega) (by omega) isI64
  · constructor
    · exact known_of_dayPresetsDenote nonneg isI64
    · rintro ⟨late, known⟩
      exact dayPresetsDenote_of_known late isI64 known

end Presets

/-! ## The Gregorian calendar up to the year 262142 -/

namespace Chrono

def gregorianMaxMillis : Int := 8210266876799999

def gregorianDate (ms : Int) : Option (Int × Nat) :=
  if ms ≤ gregorianMaxMillis then
    some (yearOf (ms / msPerDay), monthOf (ms / msPerDay))
  else
    none

def gregorianFirst (year : Int) (month : Nat) : Option Int :=
  if 1 ≤ month ∧ month ≤ 12 ∧
      monthStart year month * msPerDay ≤ gregorianMaxMillis then
    some (monthStart year month * msPerDay)
  else
    none

theorem gregorian_epochMonth : 31 * msPerDay ≤ gregorianMaxMillis := by
  decide

theorem gregorian_date (ms : Int) (_ : 0 ≤ ms)
    (known : ms ≤ gregorianMaxMillis) :
    ∃ year month, gregorianDate ms = some (year, month) ∧
      InMonth (ms / msPerDay) year month :=
  ⟨_, _, if_pos known, inMonth_monthOf _⟩

theorem gregorian_beyond (ms : Int) (beyond : gregorianMaxMillis < ms) :
    gregorianDate ms = none :=
  if_neg (Int.not_le.mpr beyond)

theorem gregorian_midnight (year : Int) (month : Nat) (first : 1 ≤ month)
    (last : month ≤ 12) (_ : 0 ≤ monthStart year month)
    (known : monthStart year month * msPerDay ≤ gregorianMaxMillis) :
    gregorianFirst year month = some (monthStart year month * msPerDay) :=
  if_pos ⟨first, last, known⟩

def gregorian : Chrono where
  maxMillis := gregorianMaxMillis
  fromTimestampMillis := gregorianDate
  firstOfMonth := gregorianFirst
  epochMonth := gregorian_epochMonth
  date := gregorian_date
  beyond := gregorian_beyond
  midnight := gregorian_midnight

end Chrono

/-- Noon on Wednesday, 7 January 2026: the week begins on Sunday, 4 January. -/
theorem wednesday_presets :
    ¬ PresetsDenote Chrono.gregorian 1767787200000 ∧
      Denotes (resolveTimeRange Chrono.gregorian 1767787200000 .thisWeek)
        1767484800000 1767787200000 ∧
      DayPresetsDenote Chrono.gregorian 1767787200000 := by
  have nonneg : (0 : Int) ≤ 1767787200000 := by decide
  have presets := presetsDenote_never Chrono.gregorian nonneg (by decide)
  exact ⟨presets.1,
    presets.2.1 20457 (by decide) (by decide) (by decide) (by decide),
    presets.2.2.mpr ⟨by decide, by decide⟩⟩

/-- The week of that Wednesday begins on Monday, 5 January. -/
theorem wednesday_week_not_monday :
    ¬ PresetsDenote Chrono.gregorian 1767787200000 := by
  intro denote
  have begins := (denote.thisWeek 20458 (by decide) (by decide) (by decide)).1
  exact absurd begins (by decide)

end OpenClipboard.Search
