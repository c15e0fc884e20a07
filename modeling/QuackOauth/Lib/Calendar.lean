import Mathlib.Data.List.Basic

/-!
# The proleptic Gregorian calendar

Dates and times of day in UTC, from the year 0 on, and the number of seconds since the
start of 1970.  Years and months are units of different lengths that follow each other;
days are counted by adding up the lengths of the units before.
-/

namespace Lib
namespace Calendar

/-! ## Units of different lengths -/

/-- The length of the first so many units together. -/
def before (length : Nat → Nat) : Nat → Nat
  | 0 => 0
  | unit + 1 => before length unit + length unit

/-- The unit in which a place is, counted from the start of a unit, and the place inside;
at most so many units are tried. -/
def locate (length : Nat → Nat) : Nat → Nat → Nat → Nat × Nat
  | 0, unit, place => (unit, place)
  | units + 1, unit, place =>
      if place < length unit then (unit, place)
      else locate length units (unit + 1) (place - length unit)

section Units

variable {length : Nat → Nat} {units unit place : Nat}

theorem before_mono {unit other : Nat} (le : unit ≤ other) :
    before length unit ≤ before length other := by
  induction le with
  | refl => exact Nat.le_refl _
  | step _ inductionHypothesis => exact Nat.le_trans inductionHypothesis (Nat.le_add_right _ _)

/-- Locating a place neither gains nor loses. -/
theorem before_locate :
    before length (locate length units unit place).1 +
        (locate length units unit place).2 =
      before length unit + place := by
  induction units generalizing unit place with
  | zero => rfl
  | succ units inductionHypothesis =>
      unfold locate
      by_cases inside : place < length unit
      · rw [if_pos inside]
      · rw [if_neg inside, inductionHypothesis, before]
        omega

/-- A place before the end of the units that are tried is inside a unit. -/
theorem locate_inside
    (enough : before length unit + place < before length (unit + units)) :
    (locate length units unit place).2 < length (locate length units unit place).1 := by
  induction units generalizing unit place with
  | zero =>
      rw [Nat.add_zero] at enough
      omega
  | succ units inductionHypothesis =>
      unfold locate
      by_cases inside : place < length unit
      · rwa [if_pos inside]
      · rw [if_neg inside]
        apply inductionHypothesis
        rw [before, Nat.add_right_comm unit 1 units]
        rw [← Nat.add_assoc] at enough
        omega

theorem le_locate : unit ≤ (locate length units unit place).1 := by
  induction units generalizing unit place with
  | zero => exact Nat.le_refl _
  | succ units inductionHypothesis =>
      unfold locate
      by_cases inside : place < length unit
      · exact (if_pos inside).symm ▸ Nat.le_refl unit
      · rw [if_neg inside]
        exact Nat.le_trans (Nat.le_succ unit) inductionHypothesis

/-- A unit ends before the limit if the place does. -/
theorem locate_lt
    {limit : Nat}
    (within : before length unit + place < before length limit) :
    (locate length units unit place).1 < limit := by
  by_contra beyond
  have later : before length limit ≤ before length (locate length units unit place).1 :=
    before_mono (Nat.le_of_not_lt beyond)
  have located : before length (locate length units unit place).1 +
      (locate length units unit place).2 = before length unit + place := before_locate
  omega

end Units

/-! ## Years and months -/

def isLeap (year : Nat) : Bool :=
  (year % 4 = 0 && year % 100 ≠ 0) || year % 400 = 0

def yearLength (year : Nat) : Nat :=
  if isLeap year then 366 else 365

/-- The lengths of the months, counted from zero. -/
def monthLength (leap : Bool) (month : Nat) : Nat :=
  [31, if leap then 29 else 28, 31, 30, 31, 30, 31, 31, 30, 31, 30, 31].getD month 0

/-- A date and a time of day. -/
structure DateTime where
  year : Nat
  /-- From one. -/
  month : Nat
  /-- From one. -/
  day : Nat
  hour : Nat
  minute : Nat
  second : Nat
  deriving DecidableEq, Repr

/-- The date is in the calendar and the time in the day. -/
structure DateTime.Exists (dt : DateTime) : Prop where
  month_pos : 1 ≤ dt.month
  month_le : dt.month ≤ 12
  day_pos : 1 ≤ dt.day
  day_le : dt.day ≤ monthLength (isLeap dt.year) (dt.month - 1)
  hour_lt : dt.hour < 24
  minute_lt : dt.minute < 60
  second_lt : dt.second < 60

/-- Days from the start of the year 0 to a date. -/
def dayNumber (dt : DateTime) : Nat :=
  before yearLength dt.year + before (monthLength (isLeap dt.year)) (dt.month - 1) +
    (dt.day - 1)

/-- Days from the start of the year 0 to the start of 1970. -/
def epochDay : Nat := 719528

/-- Seconds from the start of 1970, every day having as many. -/
def unixTime (dt : DateTime) : Int :=
  ((dayNumber dt : Int) - epochDay) * 86400 + dt.hour * 3600 + dt.minute * 60 + dt.second

/-- The year at a time from the start of 1970 on, and the days of it that are over. -/
def yearAt (t : Nat) : Nat × Nat :=
  locate yearLength (t / 86400 + 1) 1970 (t / 86400)

/-- The month, from zero, and the days of it that are over. -/
def monthAt (t : Nat) : Nat × Nat :=
  locate (monthLength (isLeap (yearAt t).1)) 12 0 (yearAt t).2

/-- The date and the time of day. -/
def ofUnixTime (t : Nat) : DateTime where
  year := (yearAt t).1
  month := (monthAt t).1 + 1
  day := (monthAt t).2 + 1
  hour := t % 86400 / 3600
  minute := t % 3600 / 60
  second := t % 60

/-- The days before a year: each year has 365, and the leap years are counted. -/
theorem before_yearLength (year : Nat) :
    before yearLength year =
      365 * year + (year + 3) / 4 - (year + 99) / 100 + (year + 399) / 400 := by
  induction year with
  | zero => rfl
  | succ year inductionHypothesis =>
      rw [before, inductionHypothesis]
      unfold yearLength isLeap
      simp only [Bool.or_eq_true, Bool.and_eq_true, decide_eq_true_eq]
      split_ifs <;> omega

theorem epochDay_eq : epochDay = before yearLength 1970 := by
  rw [before_yearLength]
  rfl

/-- The months of a year make up the year. -/
theorem before_monthLength (year : Nat) :
    before (monthLength (isLeap year)) 12 = yearLength year := by
  unfold yearLength
  cases isLeap year <;> rfl

theorem lt_before_yearLength (year place : Nat) :
    before yearLength year + place < before yearLength (year + (place + 1)) := by
  induction place with
  | zero =>
      rw [before]
      unfold yearLength
      split_ifs <;> omega
  | succ place inductionHypothesis =>
      rw [← Nat.add_assoc year, before]
      have positive : 0 < yearLength (year + (place + 1)) := by
        unfold yearLength
        split_ifs <;> omega
      omega

variable (t : Nat)

theorem dayOfYear_lt : (yearAt t).2 < yearLength (yearAt t).1 :=
  locate_inside (lt_before_yearLength 1970 (t / 86400))

/-- The day is in one of the twelve months. -/
theorem dayOfYear_within :
    before (monthLength (isLeap (yearAt t).1)) 0 + (yearAt t).2 <
      before (monthLength (isLeap (yearAt t).1)) (0 + 12) := by
  rw [Nat.zero_add, before_monthLength, before, Nat.zero_add]
  exact dayOfYear_lt t

theorem year_ofUnixTime_ge : 1970 ≤ (ofUnixTime t).year := by
  have later : 1970 ≤ (yearAt t).1 := le_locate
  exact later

/-- The date and the time of day exist. -/
theorem exists_ofUnixTime : (ofUnixTime t).Exists := by
  have inMonth : (monthAt t).2 < monthLength (isLeap (yearAt t).1) (monthAt t).1 :=
    locate_inside (dayOfYear_within t)
  have month_lt : (monthAt t).1 < 12 := locate_lt (dayOfYear_within t)
  constructor
  · exact Nat.le_add_left 1 _
  · exact month_lt
  · exact Nat.le_add_left 1 _
  · exact inMonth
  · change t % 86400 / 3600 < 24
    omega
  · change t % 3600 / 60 < 60
    omega
  · change t % 60 < 60
    omega

theorem dayNumber_ofUnixTime : dayNumber (ofUnixTime t) = epochDay + t / 86400 := by
  have days : before yearLength (yearAt t).1 + (yearAt t).2 =
      before yearLength 1970 + t / 86400 := before_locate
  have months : before (monthLength (isLeap (yearAt t).1)) (monthAt t).1 + (monthAt t).2 =
      0 + (yearAt t).2 := before_locate
  rw [epochDay_eq, ← days]
  unfold dayNumber ofUnixTime
  rw [Nat.add_sub_cancel, Nat.add_sub_cancel, Nat.add_assoc, months, Nat.zero_add]

/-- It is the time that it was made of. -/
theorem unixTime_ofUnixTime : unixTime (ofUnixTime t) = t := by
  have time : (ofUnixTime t).hour = t % 86400 / 3600 ∧
      (ofUnixTime t).minute = t % 3600 / 60 ∧ (ofUnixTime t).second = t % 60 :=
    ⟨rfl, rfl, rfl⟩
  unfold unixTime
  rw [dayNumber_ofUnixTime, time.1, time.2.1, time.2.2]
  omega

variable {t} in
/-- Before the year 10000 the year has four digits. -/
theorem year_ofUnixTime_lt
    (within : t < 253402300800) :
    (ofUnixTime t).year < 10000 := by
  have days : before yearLength 1970 + t / 86400 < before yearLength 10000 := by
    rw [before_yearLength, before_yearLength]
    omega
  have earlier : (yearAt t).1 < 10000 := locate_lt days
  exact earlier

example : ofUnixTime 951827696 =
    { year := 2000, month := 2, day := 29, hour := 12, minute := 34, second := 56 } := by
  decide

end Calendar
end Lib
