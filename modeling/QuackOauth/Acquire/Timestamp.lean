import QuackOauth.Acquire.Flow
import QuackOauth.Http.Url
import QuackOauth.Lib.Calendar
import QuackOauth.Lib.Decimal
import QuackOauth.Text

/-!
# Timestamps of secrets

The expiry of a token is kept in its secret as a text, `YYYY-MM-DDTHH:MM:SSZ`, which is
read back by hand: six fields at fixed places, each as far as `stoi` can make sense of
it, and a count of the days in closed form.  Texts that were written come back as the
same time; beyond that the reader takes more than such texts.
-/

namespace QuackOauth
namespace Acquire

open Lib Calendar

/-! ## The writer -/

/-- The byte of a decimal digit. -/
def digitByte (digit : Nat) : UInt8 :=
  UInt8.ofNat (48 + digit)

def twoDigits (number : Nat) : List UInt8 :=
  [digitByte (number / 10), digitByte (number % 10)]

/-- The time of a secret as a text, from the start of 1970 on.  The year is written as it
is, the other fields with two digits. -/
def formatUtcIso8601 (unixSeconds : Nat) : List UInt8 :=
  let tm := ofUnixTime unixSeconds
  Decimal.digits tm.year ++ '-'.toUInt8 :: (twoDigits tm.month ++ '-'.toUInt8 ::
    (twoDigits tm.day ++ 'T'.toUInt8 :: (twoDigits tm.hour ++ ':'.toUInt8 ::
      (twoDigits tm.minute ++ ':'.toUInt8 :: (twoDigits tm.second ++ ['Z'.toUInt8])))))

/-! ## The reader -/

/-- A broken-down time: the year is counted from 1900, the month from zero. -/
structure Tm where
  tmYear : Int
  tmMon : Int
  tmMday : Int
  tmHour : Int
  tmMin : Int
  tmSec : Int
  deriving DecidableEq, Repr

/-- So many bytes from a place on. -/
def substr (text : List UInt8) (pos count : Nat) : List UInt8 :=
  (text.drop pos).take count

/-- The `stoi` of the standard library, on bytes; it looks at ASCII only. -/
def stoi (text : List UInt8) : Option Int :=
  Http.stoi (text.map fun c => Char.ofNat c.toNat)

/-- The six fields; none if `stoi` throws on one of them. -/
def readTm (iso : List UInt8) : Option Tm := do
  let year ← stoi (substr iso 0 4)
  let mon ← stoi (substr iso 5 2)
  let mday ← stoi (substr iso 8 2)
  let hour ← stoi (substr iso 11 2)
  let min ← stoi (substr iso 14 2)
  let sec ← stoi (substr iso 17 2)
  pure {
    tmYear := year - 1900
    tmMon := mon - 1
    tmMday := mday
    tmHour := hour
    tmMin := min
    tmSec := sec }

/-- A field is out of its range.  The ranges do not depend on each other. -/
def Tm.OutOfRange (tm : Tm) : Prop :=
  tm.tmMon < 0 ∨ tm.tmMon > 11 ∨ tm.tmMday < 1 ∨ tm.tmMday > 31 ∨ tm.tmHour < 0 ∨
    tm.tmHour > 23 ∨ tm.tmMin < 0 ∨ tm.tmMin > 59 ∨ tm.tmSec < 0 ∨ tm.tmSec > 60

instance (tm : Tm) : Decidable tm.OutOfRange :=
  inferInstanceAs (Decidable (_ ∨ _))

def kDaysBeforeMonth : List Int :=
  [0, 31, 59, 90, 120, 151, 181, 212, 243, 273, 304, 334]

/-- The days before a year, from the start of 1970.  Division cuts off towards zero. -/
def daysBeforeYear (year : Int) : Int :=
  365 * (year - 1970) + (year - 1969).tdiv 4 - (year - 1901).tdiv 100 +
    (year - 1601).tdiv 400

def isLeapYear (year : Int) : Bool :=
  (year.tmod 4 = 0 && year.tmod 100 ≠ 0) || year.tmod 400 = 0

/-- The days of the year that are over. -/
def Tm.yday (tm : Tm) : Int :=
  kDaysBeforeMonth.getD tm.tmMon.toNat 0 + (tm.tmMday - 1) +
    if tm.tmMon > 1 ∧ isLeapYear (tm.tmYear + 1900) = true then 1 else 0

/-- The seconds from the start of 1970. -/
def Tm.seconds (tm : Tm) : Int :=
  (daysBeforeYear (tm.tmYear + 1900) + tm.yday) * 86400 + tm.tmHour * 3600 +
    tm.tmMin * 60 + tm.tmSec

/-- Read a timestamp; zero if it is not one. -/
def parseIso8601ToUnixSeconds (iso : List UInt8) : Int :=
  if iso.length < 20 ∨ iso.getD 10 0 ≠ 'T'.toUInt8 ∨ iso.getD 19 0 ≠ 'Z'.toUInt8 then 0
  else
    match readTm iso with
    | none => 0
    | some tm => if tm.OutOfRange then 0 else tm.seconds

example : parseIso8601ToUnixSeconds (bytesOf "2023-11-14T22:13:20Z") = 1700000000 := by
  decide

/-! ## Texts of the documented form -/

def fourDigits (number : Nat) : List UInt8 :=
  twoDigits (number / 100) ++ twoDigits (number % 100)

/-- The text `YYYY-MM-DDTHH:MM:SSZ` of a date and a time of day. -/
def isoText (dt : DateTime) : List UInt8 :=
  fourDigits dt.year ++ '-'.toUInt8 :: (twoDigits dt.month ++ '-'.toUInt8 ::
    (twoDigits dt.day ++ 'T'.toUInt8 :: (twoDigits dt.hour ++ ':'.toUInt8 ::
      (twoDigits dt.minute ++ ':'.toUInt8 :: (twoDigits dt.second ++ ['Z'.toUInt8])))))

/-- A text is exactly that of an existing date and time of day. -/
structure WellFormed (iso : List UInt8) (dt : DateTime) : Prop where
  exists' : dt.Exists
  year_lt : dt.year < 10000
  isText : iso = isoText dt

/-- The fields of a date and a time of day. -/
def tmOf (dt : DateTime) : Tm where
  tmYear := (dt.year : Int) - 1900
  tmMon := (dt.month : Int) - 1
  tmMday := dt.day
  tmHour := dt.hour
  tmMin := dt.minute
  tmSec := dt.second

/-! ## Digits -/

variable {number : Nat} {text : List UInt8} {dt : DateTime} {tm : Tm} {iso : List UInt8}

theorem isDigit_ofNat
    {c : UInt8}
    (digit : Decimal.isDigit c = true) :
    (Char.ofNat c.toNat).isDigit = true ∧ (Char.ofNat c.toNat).toNat = c.toNat := by
  have all : ∀ code < 58, 48 ≤ code →
      (Char.ofNat code).isDigit = true ∧ (Char.ofNat code).toNat = code := by decide
  have bounds := of_decide_eq_true digit
  exact all c.toNat (by omega) bounds.1

theorem foldl_ofNat
    (number : Nat)
    (digits : ∀ c ∈ text, Decimal.isDigit c = true) :
    (text.map fun c => Char.ofNat c.toNat).foldl
        (fun number digit => 10 * number + (digit.toNat - '0'.toNat)) number =
      Decimal.valueFrom number text := by
  induction text generalizing number with
  | nil => rfl
  | cons c text inductionHypothesis =>
      have code := (isDigit_ofNat (digits c List.mem_cons_self)).2
      rw [List.map_cons, List.foldl_cons, code]
      exact inductionHypothesis _ fun d member => digits d (List.mem_cons_of_mem _ member)

/-- Digits are read as the number that they spell. -/
theorem stoi_of_digits
    (nonempty : text ≠ [])
    (digits : ∀ c ∈ text, Decimal.isDigit c = true)
    (spells : Decimal.value text = number)
    (small : number ≤ 2147483647) :
    stoi text = some (number : Int) := by
  obtain ⟨first, rest, rfl⟩ := List.exists_cons_of_ne_nil nonempty
  have chars : ∀ c ∈ (first :: rest).map (fun c => Char.ofNat c.toNat),
      c.isDigit = true := by
    intro c member
    obtain ⟨b, inText, rfl⟩ := List.mem_map.mp member
    exact (isDigit_ofNat (digits b inText)).1
  have spelt := foldl_ofNat 0 digits
  unfold Decimal.value at spells
  rw [spells] at spelt
  rw [List.map_cons] at chars spelt
  unfold stoi Http.stoi
  rw [List.map_cons, Json.stoll_ofList_cons (chars _ List.mem_cons_self),
    Json.leadingDigits_of_digits chars, spelt, Option.bind_some, if_pos (by omega)]
  apply Option.filter_eq_some_iff.mpr
  exact ⟨rfl, decide_eq_true (by omega)⟩

theorem toNat_digitByte
    {digit : Nat}
    (small : digit < 10) :
    (digitByte digit).toNat = 48 + digit := by
  unfold digitByte
  rw [UInt8.toNat_ofNat']
  omega

theorem isDigit_digitByte
    {digit : Nat}
    (small : digit < 10) :
    Decimal.isDigit (digitByte digit) = true := by
  unfold Decimal.isDigit
  rw [toNat_digitByte small]
  exact decide_eq_true (by omega)

theorem valueFrom_twoDigits
    (before : Nat)
    (small : number < 100) :
    Decimal.valueFrom before (twoDigits number) = 100 * before + number := by
  unfold Decimal.valueFrom twoDigits
  rw [List.foldl_cons, List.foldl_cons, List.foldl_nil, toNat_digitByte (by omega),
    toNat_digitByte (by omega)]
  omega

theorem isDigit_of_mem_twoDigits
    {c : UInt8}
    (small : number < 100)
    (member : c ∈ twoDigits number) :
    Decimal.isDigit c = true := by
  simp only [twoDigits, List.mem_cons, List.not_mem_nil, or_false] at member
  rcases member with rfl | rfl
  · exact isDigit_digitByte (by omega)
  · exact isDigit_digitByte (by omega)

theorem stoi_twoDigits
    (small : number < 100) :
    stoi (twoDigits number) = some (number : Int) := by
  have value : Decimal.value (twoDigits number) = number := by
    unfold Decimal.value
    rw [valueFrom_twoDigits 0 small]
    omega
  exact stoi_of_digits (List.cons_ne_nil _ _) (fun c => isDigit_of_mem_twoDigits small) value
    (by omega)

theorem stoi_fourDigits
    (small : number < 10000) :
    stoi (fourDigits number) = some (number : Int) := by
  have value : Decimal.value (fourDigits number) = number := by
    unfold Decimal.value fourDigits Decimal.valueFrom
    rw [List.foldl_append]
    have high := valueFrom_twoDigits 0 (show number / 100 < 100 by omega)
    have low := valueFrom_twoDigits (number / 100) (show number % 100 < 100 by omega)
    unfold Decimal.valueFrom at high low
    rw [high, Nat.mul_zero, Nat.zero_add, low]
    omega
  have digits : ∀ c ∈ fourDigits number, Decimal.isDigit c = true := by
    intro c member
    rcases List.mem_append.mp member with high | low
    · exact isDigit_of_mem_twoDigits (by omega) high
    · exact isDigit_of_mem_twoDigits (by omega) low
  exact stoi_of_digits (List.cons_ne_nil _ _) digits value (by omega)

/-- A year of four digits is written with four digits. -/
theorem digits_eq_fourDigits
    (large : 1000 ≤ number)
    (small : number < 10000) :
    Decimal.digits number = fourDigits number := by
  have digit : ∀ digit < 10, digit.digitChar.toUInt8 = digitByte digit := by decide
  unfold Decimal.digits fourDigits twoDigits
  rw [Nat.toDigits_of_base_le (by decide) (by omega),
    Nat.toDigits_of_base_le (by decide) (by omega),
    Nat.toDigits_of_base_le (by decide) (by omega), Nat.toDigits_of_lt_base (by omega)]
  simp only [List.map_append, List.map_cons, List.map_nil]
  rw [digit _ (by omega), digit _ (by omega), digit _ (by omega), digit _ (by omega)]
  have second : number / 10 / 10 % 10 = number / 100 % 10 := by omega
  have third : number / 10 % 10 = number % 100 / 10 := by omega
  have fourth : number % 10 = number % 100 % 10 := by omega
  have first : number / 10 / 10 / 10 = number / 100 / 10 := by omega
  rw [first, second, third, fourth]
  rfl

/-! ## The count of days -/

/-- What division towards zero adds to division towards minus infinity. -/
def cutoff (a b : Int) : Int :=
  if 0 ≤ a ∨ b ∣ a then 0 else 1

theorem tdiv_eq_add_cutoff
    {a b : Int}
    (positive : 0 < b) :
    a.tdiv b = a / b + cutoff a b := by
  rw [Int.tdiv_eq_ediv, Int.sign_eq_one_of_pos positive]
  rfl

/-- The years before which the closed form counts the days: from 1969 on all, before
that those of which the division towards zero leaves the sum as it is. -/
def DaysCounted (year : Nat) : Prop :=
  1969 ≤ year ∨ (1901 ≤ year ∧ year % 4 = 1) ∨
    (1601 ≤ year ∧ year < 1901 ∧ (year % 4 = 1 → year % 100 = 1)) ∨
    (year < 1601 ∧ year % 4 = 1 ∧ (year % 100 = 1 → year % 400 = 1))

instance (year : Nat) : Decidable (DaysCounted year) :=
  inferInstanceAs (Decidable (_ ∨ _))

theorem cutoffs_cancel_iff {year : Nat} :
    cutoff ((year : Int) - 1969) 4 - cutoff ((year : Int) - 1901) 100 +
        cutoff ((year : Int) - 1601) 400 = 0 ↔
      DaysCounted year := by
  unfold cutoff DaysCounted
  split_ifs <;> omega

/-- The days before a year of the calendar, in the terms of the closed form. -/
theorem before_yearLength_sub_epochDay (year : Nat) :
    (before yearLength year : Int) - epochDay =
      365 * ((year : Int) - 1970) + ((year : Int) - 1969) / 4 - ((year : Int) - 1901) / 100 +
        ((year : Int) - 1601) / 400 := by
  have four : ((year : Int) - 1969) / 4 = ((year + 3) / 4 : Nat) - 493 := by omega
  have hundred : ((year : Int) - 1901) / 100 = ((year + 99) / 100 : Nat) - 20 := by omega
  have fourHundred : ((year : Int) - 1601) / 400 = ((year + 399) / 400 : Nat) - 5 := by
    omega
  rw [before_yearLength, four, hundred, fourHundred]
  unfold epochDay
  omega

theorem daysBeforeYear_eq_iff {year : Nat} :
    daysBeforeYear year = (before yearLength year : Int) - epochDay ↔ DaysCounted year := by
  rw [before_yearLength_sub_epochDay, ← cutoffs_cancel_iff]
  unfold daysBeforeYear
  rw [tdiv_eq_add_cutoff (by decide), tdiv_eq_add_cutoff (by decide),
    tdiv_eq_add_cutoff (by decide)]
  omega

theorem isLeapYear_natCast (year : Nat) : isLeapYear year = isLeap year := by
  unfold isLeapYear isLeap
  rw [Int.tmod_eq_emod_of_nonneg (by omega), Int.tmod_eq_emod_of_nonneg (by omega),
    Int.tmod_eq_emod_of_nonneg (by omega)]
  congr 1
  · congr 1
    · exact decide_eq_decide.mpr (by omega)
    · exact decide_eq_decide.mpr (by omega)
  · exact decide_eq_decide.mpr (by omega)

/-- The table of months agrees with the calendar. -/
theorem before_monthLength_eq :
    ∀ leap, ∀ month < 12,
      (before (monthLength leap) month : Int) =
        kDaysBeforeMonth.getD month 0 + if 1 < month ∧ leap = true then 1 else 0 := by
  decide

theorem yday_tmOf (exists' : dt.Exists) :
    (tmOf dt).yday =
      (before (monthLength (isLeap dt.year)) (dt.month - 1) : Int) + (dt.day - 1 : Nat) := by
  have month_pos := exists'.month_pos
  have month_le := exists'.month_le
  have day_pos := exists'.day_pos
  have monthIndex : ((dt.month : Int) - 1).toNat = dt.month - 1 := by omega
  have year : (dt.year : Int) - 1900 + 1900 = dt.year := by omega
  have later : ((dt.month : Int) - 1 > 1 ∧ isLeap dt.year = true) ↔
      (1 < dt.month - 1 ∧ isLeap dt.year = true) :=
    and_congr_left' (by omega)
  rw [before_monthLength_eq _ _ (by omega)]
  unfold Tm.yday tmOf
  dsimp only
  rw [monthIndex, year, isLeapYear_natCast, if_congr later rfl rfl]
  omega

/-- The fields of an existing date give its time exactly if the days before its year are
counted. -/
theorem seconds_tmOf_eq_iff
    (exists' : dt.Exists) :
    (tmOf dt).seconds = unixTime dt ↔ DaysCounted dt.year := by
  have year : (tmOf dt).tmYear + 1900 = dt.year := by
    change (dt.year : Int) - 1900 + 1900 = dt.year
    omega
  have time : (tmOf dt).tmHour = dt.hour ∧ (tmOf dt).tmMin = dt.minute ∧
      (tmOf dt).tmSec = dt.second := ⟨rfl, rfl, rfl⟩
  rw [← daysBeforeYear_eq_iff]
  unfold Tm.seconds unixTime dayNumber
  rw [year, yday_tmOf exists', time.1, time.2.1, time.2.2]
  omega

/-! ## Reading what was written -/

theorem monthLength_le : ∀ leap, ∀ month, monthLength leap month ≤ 31 := by
  intro leap month
  by_cases inYear : month < 12
  · revert leap month
    decide
  · unfold monthLength
    rw [List.getD_eq_getElem?_getD, List.getElem?_eq_none (Nat.le_of_not_lt inYear)]
    exact Nat.zero_le _

theorem readTm_isoText
    (exists' : dt.Exists)
    (year_lt : dt.year < 10000) :
    readTm (isoText dt) = some (tmOf dt) := by
  have month_le := exists'.month_le
  have day_le := Nat.le_trans exists'.day_le (monthLength_le _ _)
  have hour_lt := exists'.hour_lt
  have minute_lt := exists'.minute_lt
  have second_lt := exists'.second_lt
  have year : substr (isoText dt) 0 4 = fourDigits dt.year := rfl
  have month : substr (isoText dt) 5 2 = twoDigits dt.month := rfl
  have day : substr (isoText dt) 8 2 = twoDigits dt.day := rfl
  have hour : substr (isoText dt) 11 2 = twoDigits dt.hour := rfl
  have minute : substr (isoText dt) 14 2 = twoDigits dt.minute := rfl
  have second : substr (isoText dt) 17 2 = twoDigits dt.second := rfl
  unfold readTm
  rw [year, month, day, hour, minute, second, stoi_fourDigits year_lt,
    stoi_twoDigits (by omega), stoi_twoDigits (by omega), stoi_twoDigits (by omega),
    stoi_twoDigits (by omega), stoi_twoDigits (by omega)]
  rfl

theorem not_outOfRange_tmOf (exists' : dt.Exists) : ¬ (tmOf dt).OutOfRange := by
  obtain ⟨month_pos, month_le, day_pos, day_le, hour_lt, minute_lt, second_lt⟩ := exists'
  have day_le := Nat.le_trans day_le (monthLength_le _ _)
  unfold Tm.OutOfRange tmOf
  dsimp only
  omega

/-- A text of the documented form is read field by field. -/
theorem parse_isoText
    (exists' : dt.Exists)
    (year_lt : dt.year < 10000) :
    parseIso8601ToUnixSeconds (isoText dt) = (tmOf dt).seconds := by
  have inPlace : ¬ ((isoText dt).length < 20 ∨ (isoText dt).getD 10 0 ≠ 'T'.toUInt8 ∨
      (isoText dt).getD 19 0 ≠ 'Z'.toUInt8) := by
    have length : (isoText dt).length = 20 := rfl
    have markT : (isoText dt).getD 10 0 = 'T'.toUInt8 := rfl
    have markZ : (isoText dt).getD 19 0 = 'Z'.toUInt8 := rfl
    rw [length, markT, markZ]
    decide
  unfold parseIso8601ToUnixSeconds
  rw [if_neg inPlace, readTm_isoText exists' year_lt]
  exact if_neg (not_outOfRange_tmOf exists')

/-- What is written is the text of the documented form, up to the year 9999. -/
theorem formatUtcIso8601_eq
    {t : Nat}
    (within : t < 253402300800) :
    formatUtcIso8601 t = isoText (ofUnixTime t) := by
  have large := year_ofUnixTime_ge t
  unfold formatUtcIso8601 isoText
  dsimp only
  rw [digits_eq_fourDigits (by omega) (year_ofUnixTime_lt within)]

/-- A time that is written is read back, and the count of days is exact for every date
from 1970 on. -/
theorem parse_formatUtcIso8601 :
    (∀ t : Nat, 0 < t → t < 253402300800 →
      parseIso8601ToUnixSeconds (formatUtcIso8601 t) = t) ∧
      ∀ dt : DateTime, dt.Exists → 1970 ≤ dt.year → (tmOf dt).seconds = unixTime dt := by
  constructor
  · intro t _ within
    have exists' := exists_ofUnixTime t
    have counted : DaysCounted (ofUnixTime t).year := by
      have later := year_ofUnixTime_ge t
      exact .inl (by omega)
    rw [formatUtcIso8601_eq within, parse_isoText exists' (year_ofUnixTime_lt within),
      (seconds_tmOf_eq_iff exists').mpr counted, unixTime_ofUnixTime]
  · intro dt exists' later
    exact (seconds_tmOf_eq_iff exists').mpr (.inl (by omega))

/-- At noon of a leap day. -/
theorem parse_formatUtcIso8601_leapDay :
    parseIso8601ToUnixSeconds (formatUtcIso8601 951825600) = (951825600 : Nat) :=
  parse_formatUtcIso8601.1 951825600 (by decide) (by decide)

/-! ## What is read as zero -/

/-- The fields of the start of 1970, and those of a leap second just before it. -/
def Tm.IsEpoch (tm : Tm) : Prop :=
  tm = { tmYear := 70, tmMon := 0, tmMday := 1, tmHour := 0, tmMin := 0, tmSec := 0 } ∨
    tm = { tmYear := 69, tmMon := 11, tmMday := 31, tmHour := 23, tmMin := 59, tmSec := 60 }

instance (tm : Tm) : Decidable tm.IsEpoch :=
  inferInstanceAs (Decidable (_ ∨ _))

theorem cutoff_bounds (a b : Int) : 0 ≤ cutoff a b ∧ cutoff a b ≤ 1 := by
  unfold cutoff
  split_ifs <;> decide

/-- Years other than 1969 and 1970 are far from the start of 1970. -/
theorem daysBeforeYear_bounds (year : Int) :
    (year < 1969 → daysBeforeYear year ≤ -700) ∧
      (1970 < year → 300 ≤ daysBeforeYear year) := by
  have four := cutoff_bounds (year - 1969) 4
  have hundred := cutoff_bounds (year - 1901) 100
  have fourHundred := cutoff_bounds (year - 1601) 400
  unfold daysBeforeYear
  rw [tdiv_eq_add_cutoff (by decide), tdiv_eq_add_cutoff (by decide),
    tdiv_eq_add_cutoff (by decide)]
  omega

theorem kDaysBeforeMonth_bounds :
    ∀ month < 12, (month = 0 ∧ kDaysBeforeMonth.getD month 0 = 0 ∨
        31 ≤ kDaysBeforeMonth.getD month 0) ∧
      (month = 11 ∧ kDaysBeforeMonth.getD month 0 = 334 ∨
        kDaysBeforeMonth.getD month 0 ≤ 304) := by decide

theorem tmYear_of_seconds_eq_zero
    (inRange : ¬ tm.OutOfRange)
    (isZero : tm.seconds = 0) :
    tm.tmYear = 69 ∨ tm.tmYear = 70 := by
  unfold Tm.OutOfRange at inRange
  have month := kDaysBeforeMonth_bounds tm.tmMon.toNat (by omega)
  have bounds := daysBeforeYear_bounds (tm.tmYear + 1900)
  have leapDay : (if tm.tmMon > 1 ∧ isLeapYear (tm.tmYear + 1900) = true then (1 : Int)
      else 0) ≤ 1 ∧ 0 ≤ (if tm.tmMon > 1 ∧ isLeapYear (tm.tmYear + 1900) = true
        then (1 : Int) else 0) := by
    split_ifs <;> decide
  have days : daysBeforeYear (tm.tmYear + 1900) + tm.yday = 0 ∨
      daysBeforeYear (tm.tmYear + 1900) + tm.yday = -1 := by
    unfold Tm.seconds at isZero
    omega
  unfold Tm.yday at days
  omega

/-- In a common year the days of the year are those of the table. -/
theorem seconds_of_common
    (common : isLeapYear (tm.tmYear + 1900) = false) :
    tm.seconds =
      (daysBeforeYear (tm.tmYear + 1900) +
        (kDaysBeforeMonth.getD tm.tmMon.toNat 0 + (tm.tmMday - 1))) * 86400 +
        tm.tmHour * 3600 + tm.tmMin * 60 + tm.tmSec := by
  unfold Tm.seconds Tm.yday
  rw [common, if_neg (by simp), Int.add_zero]

/-- Fields within their ranges give zero only at the start of 1970. -/
theorem seconds_eq_zero_iff
    (inRange : ¬ tm.OutOfRange) :
    tm.seconds = 0 ↔ tm.IsEpoch := by
  constructor
  · intro isZero
    have year := tmYear_of_seconds_eq_zero inRange isZero
    have common : isLeapYear (tm.tmYear + 1900) = false := by
      rcases year with last | first
      · rw [last]
        decide
      · rw [first]
        decide
    have last : daysBeforeYear (69 + 1900) = -365 := by decide
    have first : daysBeforeYear (70 + 1900) = 0 := by decide
    unfold Tm.OutOfRange at inRange
    have month := kDaysBeforeMonth_bounds tm.tmMon.toNat (by omega)
    rw [seconds_of_common common] at isZero
    obtain ⟨tmYear, mon, mday, hour, min, sec⟩ := tm
    dsimp only at *
    unfold Tm.IsEpoch
    rw [Tm.mk.injEq, Tm.mk.injEq]
    rcases year with rfl | rfl
    · rw [last] at isZero
      omega
    · rw [first] at isZero
      omega
  · rintro (rfl | rfl)
    · decide
    · decide

/-! ## What is taken for a timestamp -/

/-- A text passes the checks with these fields: it is long enough, has its `T` and `Z` in
place, `stoi` makes something of each field, and each field is within its range. -/
structure Passes (iso : List UInt8) (tm : Tm) : Prop where
  inPlace : ¬ (iso.length < 20 ∨ iso.getD 10 0 ≠ 'T'.toUInt8 ∨ iso.getD 19 0 ≠ 'Z'.toUInt8)
  read : readTm iso = some tm
  inRange : ¬ tm.OutOfRange

theorem parse_of_passes (passes : Passes iso tm) :
    parseIso8601ToUnixSeconds iso = tm.seconds := by
  unfold parseIso8601ToUnixSeconds
  rw [if_neg passes.inPlace, passes.read]
  exact if_neg passes.inRange

theorem parse_of_not_passes (noTm : ∀ tm, ¬ Passes iso tm) :
    parseIso8601ToUnixSeconds iso = 0 := by
  unfold parseIso8601ToUnixSeconds
  by_cases misplaced :
      iso.length < 20 ∨ iso.getD 10 0 ≠ 'T'.toUInt8 ∨ iso.getD 19 0 ≠ 'Z'.toUInt8
  · rw [if_pos misplaced]
  · rw [if_neg misplaced]
    cases read : readTm iso with
    | none => rfl
    | some tm =>
        by_cases outOfRange : tm.OutOfRange
        · exact if_pos outOfRange
        · exact absurd ⟨misplaced, read, outOfRange⟩ (noTm tm)

/-- The reader takes a text for a time exactly as documented: the text of an existing date
and time is read as that time, any other as zero, and then no token is fresh by it. -/
structure ReadAsDocumented (iso : List UInt8) : Prop where
  wellFormed : ∀ dt, WellFormed iso dt → parseIso8601ToUnixSeconds iso = unixTime dt
  malformed : (¬ ∃ dt, WellFormed iso dt) → parseIso8601ToUnixSeconds iso = 0
  neverFresh : (¬ ∃ dt, WellFormed iso dt) →
    ∀ (v : ClientSecretView) nowS renewSkewS,
      v.expiresAtUnixS = parseIso8601ToUnixSeconds iso →
        (decideAcquireFlow v nowS renewSkewS).flow ≠ .useCached

/-- A text is read as documented exactly if the days before its year are counted, when it
is well formed, and it fails a check or has the fields of the start of 1970, when it is
not. -/
theorem readAsDocumented_iff (iso : List UInt8) :
    ReadAsDocumented iso ↔
      (∀ dt, WellFormed iso dt → DaysCounted dt.year) ∧
        ((¬ ∃ dt, WellFormed iso dt) → ∀ tm, Passes iso tm → tm.IsEpoch) := by
  have time : ∀ dt, WellFormed iso dt →
      (parseIso8601ToUnixSeconds iso = unixTime dt ↔ DaysCounted dt.year) := by
    rintro dt ⟨exists', year_lt, rfl⟩
    rw [parse_isoText exists' year_lt, seconds_tmOf_eq_iff exists']
  have zero : parseIso8601ToUnixSeconds iso = 0 ↔ ∀ tm, Passes iso tm → tm.IsEpoch := by
    constructor
    · intro isZero tm passes
      rw [parse_of_passes passes] at isZero
      exact (seconds_eq_zero_iff passes.inRange).mp isZero
    · intro epoch
      by_cases some' : ∃ tm, Passes iso tm
      · obtain ⟨tm, passes⟩ := some'
        rw [parse_of_passes passes]
        exact (seconds_eq_zero_iff passes.inRange).mpr (epoch tm passes)
      · exact parse_of_not_passes fun tm passes => some' ⟨tm, passes⟩
  constructor
  · intro documented
    exact ⟨fun dt wellFormed => (time dt wellFormed).mp (documented.wellFormed dt wellFormed),
      fun malformed => zero.mp (documented.malformed malformed)⟩
  · rintro ⟨counted, epoch⟩
    refine ⟨fun dt wellFormed => (time dt wellFormed).mpr (counted dt wellFormed),
      fun malformed => zero.mpr (epoch malformed), ?_⟩
    intro malformed v nowS renewSkewS expiry
    rw [zero.mpr (epoch malformed)] at expiry
    rw [ne_eq, flow_eq_useCached_iff, accessTokenIsFresh_of_unknown (by omega)]
    decide

/-- The thirty-first of February makes a fresh token. -/
theorem february31_not_readAsDocumented :
    ¬ ReadAsDocumented (bytesOf "2030-02-31T12:00:00Z") := by
  have read : readTm (bytesOf "2030-02-31T12:00:00Z") =
      some { tmYear := 130, tmMon := 1, tmMday := 31, tmHour := 12, tmMin := 0, tmSec := 0 } := by
    decide
  have malformed : ¬ ∃ dt, WellFormed (bytesOf "2030-02-31T12:00:00Z") dt := by
    rintro ⟨dt, exists', year_lt, isText⟩
    rw [isText, readTm_isoText exists' year_lt, Option.some.injEq, tmOf, Tm.mk.injEq] at read
    have day_le := exists'.day_le
    have year : dt.year = 2030 := by omega
    have month : dt.month = 2 := by omega
    have day : dt.day = 31 := by omega
    rw [year, month, day] at day_le
    revert day_le
    decide
  intro documented
  have zero := documented.malformed malformed
  revert zero
  decide

end Acquire
end QuackOauth
