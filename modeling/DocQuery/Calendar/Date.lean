/-!
# Dates of the Gregorian calendar

* `monthLength`: the days of a month, leap years considered.
* `Date.IsValid`: a month of the year and a day of that month.
* `Date.dayNumber`: the days from 1970-01-01 to a date. `Date.daysBeforeYear_succ` says that the
  years in between count with their own lengths.
* `instant`: a date, a time of day and an offset as milliseconds since the epoch.
-/

namespace DocQuery

/-- Every fourth year is a leap year, but of the full centuries only every fourth. -/
def isLeapYear (year : Nat) : Bool := (year % 4 = 0 && year % 100 ≠ 0) || year % 400 = 0

/-- The number of days of a month, counted from 1. -/
def monthLength (year month : Nat) : Nat :=
  if month = 2 then (if isLeapYear year then 29 else 28)
  else if month = 4 || month = 6 || month = 9 || month = 11 then 30
  else 31

/-- A day by its year, month and day of the month, the last two counted from 1. -/
structure Date where
  year : Nat
  month : Nat
  day : Nat
deriving DecidableEq, Repr

namespace Date

/-- The month is one of the year and the day one of that month. -/
def IsValid (d : Date) : Prop :=
  1 ≤ d.month ∧ d.month ≤ 12 ∧ 1 ≤ d.day ∧ d.day ≤ monthLength d.year d.month

instance (d : Date) : Decidable d.IsValid := by unfold IsValid; infer_instance

/-- The number of multiples of `k` below `n`. -/
def multiplesBelow (k n : Nat) : Nat := (n + (k - 1)) / k

/-- The number of days in the years before a year, from year 0 on. -/
def daysBeforeYear (year : Nat) : Nat :=
  365 * year + multiplesBelow 4 year + multiplesBelow 400 year - multiplesBelow 100 year

/-- The number of days of the first months of a year. -/
def daysOfMonths (year : Nat) : Nat → Nat
  | 0 => 0
  | month + 1 => daysOfMonths year month + monthLength year (month + 1)

/-- The number of days from 1970-01-01 to a date. -/
def dayNumber (d : Date) : Int :=
  (daysBeforeYear d.year + daysOfMonths d.year (d.month - 1) + d.day : Nat) -
    (daysBeforeYear 1970 + 1 : Nat)

theorem multiplesBelow_succ {k : Nat} (hk : 0 < k) (n : Nat) :
    multiplesBelow k (n + 1) = multiplesBelow k n + if n % k = 0 then 1 else 0 := by
  have hsucc : multiplesBelow k (n + 1) = n / k + 1 := by
    rw [multiplesBelow, show n + 1 + (k - 1) = n + k by omega, Nat.add_div_right n hk]
  rw [hsucc, multiplesBelow, Nat.add_div hk, Nat.div_eq_of_lt (show k - 1 < k by omega),
    Nat.mod_eq_of_lt (show k - 1 < k by omega)]
  have hlt := Nat.mod_lt n hk
  grind

theorem daysBeforeYear_succ (year : Nat) :
    daysBeforeYear (year + 1) = daysBeforeYear year + if isLeapYear year then 366 else 365 := by
  have hle : multiplesBelow 100 year ≤ multiplesBelow 4 year := by
    unfold multiplesBelow; omega
  have h1 : year % 400 = 0 → year % 100 = 0 := fun h => by omega
  have h2 : year % 100 = 0 → year % 4 = 0 := fun h => by omega
  simp only [daysBeforeYear, isLeapYear, multiplesBelow_succ (show 0 < 4 by omega),
    multiplesBelow_succ (show 0 < 100 by omega), multiplesBelow_succ (show 0 < 400 by omega)]
  grind

end Date

/-- The instant at which a clock that is `offset` seconds ahead shows the second `second` of a day
and `nanos` nanoseconds, in milliseconds since the epoch. A part of a millisecond is dropped. -/
def instant (date : Date) (second nanos : Nat) (offset : Int) : Int :=
  (date.dayNumber * 86400 + second - offset) * 1000 + (nanos / 1000000 : Nat)

end DocQuery
