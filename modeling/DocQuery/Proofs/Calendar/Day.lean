import DocQuery.Calendar.Date
import Mathlib.Data.Nat.Find
import Mathlib.Logic.Function.Iterate
import Mathlib.Order.Monotone.Basic

/-!
# Counting days

* `Date.next`, `Date.AreDaysApart`: the calendar counted day by day.
* **`Date.dayNumber_next`**, **`Date.areDaysApart_iff`**: numbers of days count just so.
* `Date.Before`, **`Date.dayNumber_lt_of_before`**: a date that is earlier by year, month and day has
  a smaller number.
* `Date.ofDayNumber`, **`Date.ofDayNumber_spec`**: the date of a number.
-/

namespace DocQuery

theorem monthLength_pos (year month : Nat) : 0 < monthLength year month := by
  unfold monthLength
  split_ifs <;> omega

theorem monthLength_le (year month : Nat) : monthLength year month ≤ 31 := by
  unfold monthLength
  split_ifs <;> omega

namespace Date

/-! ## Days of a year -/

/-- The number of days of a year. -/
def yearLength (year : Nat) : Nat := if isLeapYear year then 366 else 365

theorem daysOfMonths_twelve (year : Nat) : daysOfMonths year 12 = yearLength year := by
  cases h : isLeapYear year <;> simp [daysOfMonths, monthLength, yearLength, h]

theorem daysBeforeYear_mono : Monotone daysBeforeYear :=
  monotone_nat_of_le_succ fun year => by
    rw [daysBeforeYear_succ]
    omega

theorem daysOfMonths_mono (year : Nat) : Monotone (daysOfMonths year) :=
  monotone_nat_of_le_succ fun month => by
    rw [daysOfMonths]
    omega

/-- The number of a date among the days of its year, counted from 1. -/
def dayOfYear (d : Date) : Nat := daysOfMonths d.year (d.month - 1) + d.day

theorem dayNumber_eq (d : Date) :
    d.dayNumber = (daysBeforeYear d.year + d.dayOfYear : Nat) - (daysBeforeYear 1970 + 1 : Nat) := by
  rw [dayNumber, dayOfYear, Nat.add_assoc]

theorem daysOfMonths_eq {year month : Nat} (h : 1 ≤ month) :
    daysOfMonths year month = daysOfMonths year (month - 1) + monthLength year month := by
  obtain ⟨month, rfl⟩ := Nat.exists_eq_add_of_le' h
  rfl

theorem IsValid.dayOfYear_le_month {d : Date} (h : d.IsValid) :
    d.dayOfYear ≤ daysOfMonths d.year d.month := by
  obtain ⟨hmonth, -, -, hday⟩ := h
  rw [dayOfYear, daysOfMonths_eq hmonth]
  exact Nat.add_le_add_left hday _

theorem IsValid.dayOfYear_le {d : Date} (h : d.IsValid) : d.dayOfYear ≤ yearLength d.year :=
  daysOfMonths_twelve d.year ▸ h.dayOfYear_le_month.trans (daysOfMonths_mono d.year h.2.1)

theorem IsValid.dayOfYear_pos {d : Date} (h : d.IsValid) : 0 < d.dayOfYear :=
  Nat.add_pos_right _ h.2.2.1

/-! ## Day after day -/

/-- The day after a date. -/
def next (d : Date) : Date :=
  if d.day < monthLength d.year d.month then ⟨d.year, d.month, d.day + 1⟩
  else if d.month < 12 then ⟨d.year, d.month + 1, 1⟩
  else ⟨d.year + 1, 1, 1⟩

/-- Whether there are `n` days from one date to another. For a negative `n` the second date is the
earlier one. -/
def AreDaysApart (n : Int) (d e : Date) : Prop := next^[n.toNat] d = next^[(-n).toNat] e

theorem IsValid.next {d : Date} (h : d.IsValid) : d.next.IsValid := by
  obtain ⟨hmonth, hmonths, hday, hlength⟩ := h
  have hfirst (year month : Nat) : 1 ≤ monthLength year month := monthLength_pos year month
  unfold Date.next
  split_ifs with hin hmonth'
  · exact ⟨hmonth, hmonths, Nat.le_add_left 1 _, hin⟩
  · exact ⟨Nat.le_add_left 1 _, hmonth', le_rfl, hfirst _ _⟩
  · exact ⟨le_rfl, Nat.le_add_left 1 11, le_rfl, hfirst _ _⟩

/-- **The next day has the next number.** -/
theorem dayNumber_next {d : Date} (h : d.IsValid) : d.next.dayNumber = d.dayNumber + 1 := by
  obtain ⟨hmonth, hmonths, -, hlength⟩ := h
  have hend (hlast : ¬ d.day < monthLength d.year d.month) :
      d.dayOfYear = daysOfMonths d.year d.month := by
    rw [dayOfYear, daysOfMonths_eq hmonth]
    omega
  rw [dayNumber_eq, dayNumber_eq]
  unfold next
  split_ifs with hin hnext
  · have hday : dayOfYear ⟨d.year, d.month, d.day + 1⟩ = d.dayOfYear + 1 := rfl
    simp only [hday]
    omega
  · have hday : dayOfYear ⟨d.year, d.month + 1, 1⟩ = daysOfMonths d.year d.month + 1 := rfl
    simp only [hday, hend hin]
    omega
  · have hday : dayOfYear ⟨d.year + 1, 1, 1⟩ = 1 := rfl
    have hdecember : d.month = 12 := by omega
    have hyear := daysBeforeYear_succ d.year
    simp only [hday, hend hin, hdecember, daysOfMonths_twelve, hyear, yearLength]
    omega

theorem IsValid.iterate_next {d : Date} (h : d.IsValid) (n : Nat) : (Date.next^[n] d).IsValid := by
  induction n with
  | zero => exact h
  | succ n ih =>
    rw [Function.iterate_succ_apply']
    exact ih.next

theorem dayNumber_iterate_next {d : Date} (h : d.IsValid) (n : Nat) :
    (next^[n] d).dayNumber = d.dayNumber + n := by
  induction n with
  | zero => simp
  | succ n ih =>
    rw [Function.iterate_succ_apply', dayNumber_next (h.iterate_next n), ih]
    omega

/-! ## Order -/

/-- Whether a date is earlier than another one by year, month and day. -/
def Before (d e : Date) : Prop :=
  d.year < e.year ∨ d.year = e.year ∧ (d.month < e.month ∨ d.month = e.month ∧ d.day < e.day)

theorem before_or_eq_or_before (d e : Date) : d.Before e ∨ d = e ∨ e.Before d := by
  obtain ⟨y, m, d⟩ := d
  obtain ⟨y', m', d'⟩ := e
  simp only [Before, mk.injEq]
  omega

/-- **An earlier date has a smaller number.** -/
theorem dayNumber_lt_of_before {d e : Date} (hd : d.IsValid) (he : e.IsValid) (h : d.Before e) :
    d.dayNumber < e.dayNumber := by
  rw [dayNumber_eq, dayNumber_eq]
  have hpos := he.dayOfYear_pos
  rcases h with hyear | ⟨hyear, hmonth | ⟨hmonth, hday⟩⟩
  · have hyears := daysBeforeYear_mono (Nat.succ_le_of_lt hyear)
    rw [Nat.succ_eq_add_one, daysBeforeYear_succ] at hyears
    have hin := hd.dayOfYear_le
    rw [yearLength] at hin
    omega
  · have hmonths := daysOfMonths_mono e.year (Nat.le_sub_one_of_lt hmonth)
    have hin := hd.dayOfYear_le_month
    have hfirst := he.2.2.1
    rw [hyear] at hin ⊢
    rw [dayOfYear.eq_def e]
    omega
  · rw [dayOfYear, dayOfYear, hyear, hmonth]
    omega

theorem eq_of_dayNumber_eq {d e : Date} (hd : d.IsValid) (he : e.IsValid)
    (h : d.dayNumber = e.dayNumber) : d = e := by
  rcases before_or_eq_or_before d e with hbefore | heq | hbefore
  · exact absurd h (dayNumber_lt_of_before hd he hbefore).ne
  · exact heq
  · exact absurd h (dayNumber_lt_of_before he hd hbefore).ne'

theorem year_le_of_dayNumber_le {d e : Date} (hd : d.IsValid) (he : e.IsValid)
    (h : e.dayNumber ≤ d.dayNumber + 1) : e.year ≤ d.year + 1 := by
  by_contra hyear
  have hnext : d.next.year ≤ d.year + 1 := by
    unfold next
    split_ifs <;> dsimp only <;> omega
  have hlt := dayNumber_lt_of_before hd.next he (.inl (show d.next.year < e.year by omega))
  rw [dayNumber_next hd] at hlt
  omega

/-- **Days counted one by one** are the difference of the numbers. -/
theorem areDaysApart_iff {d e : Date} (hd : d.IsValid) (he : e.IsValid) {n : Int} :
    AreDaysApart n d e ↔ e.dayNumber = d.dayNumber + n := by
  have hleft := dayNumber_iterate_next hd n.toNat
  have hright := dayNumber_iterate_next he (-n).toNat
  constructor
  · intro h
    rw [AreDaysApart] at h
    rw [h] at hleft
    omega
  · intro h
    refine eq_of_dayNumber_eq (hd.iterate_next _) (he.iterate_next _) ?_
    omega

/-! ## The date of a number -/

/-- The year with a day that has `days` days before it from year 0 on. -/
def yearOf (days : Nat) : Nat := Nat.findGreatest (fun year => daysBeforeYear year ≤ days) (days / 365)

/-- The month with a day that has `days` days of the year before it. -/
def monthOf (year days : Nat) : Nat :=
  Nat.findGreatest (fun month => daysOfMonths year month ≤ days) 11 + 1

/-- The date with some days before it from year 0 on. -/
def ofDays (days : Nat) : Date :=
  let year := yearOf days
  let rest := days - daysBeforeYear year
  let month := monthOf year rest
  ⟨year, month, rest - daysOfMonths year (month - 1) + 1⟩

/-- The date of a number of days from 1970-01-01, from year 0 on. -/
def ofDayNumber (n : Int) : Date := ofDays (n + daysBeforeYear 1970).toNat

theorem yearOf_spec (days : Nat) :
    daysBeforeYear (yearOf days) ≤ days ∧ days < daysBeforeYear (yearOf days + 1) := by
  have hfew (year : Nat) : 365 * year ≤ daysBeforeYear year := by
    unfold daysBeforeYear multiplesBelow
    omega
  refine ⟨Nat.findGreatest_spec (P := fun year => daysBeforeYear year ≤ days) (Nat.zero_le _)
    (Nat.zero_le _), ?_⟩
  by_contra hnot
  have hle : yearOf days + 1 ≤ days / 365 := by
    have := hfew (yearOf days + 1)
    omega
  exact Nat.findGreatest_is_greatest (Nat.lt_succ_self _) hle (Nat.le_of_not_lt hnot)

theorem monthOf_spec {year days : Nat} (h : days < yearLength year) :
    1 ≤ monthOf year days ∧ monthOf year days ≤ 12 ∧
      daysOfMonths year (monthOf year days - 1) ≤ days ∧
        days < daysOfMonths year (monthOf year days) := by
  have hle : monthOf year days ≤ 12 := Nat.succ_le_succ (Nat.findGreatest_le 11)
  refine ⟨Nat.le_add_left 1 _, hle, Nat.findGreatest_spec
    (P := fun month => daysOfMonths year month ≤ days) (Nat.zero_le _) (Nat.zero_le _), ?_⟩
  rcases hle.eq_or_lt with heq | hlt
  · rwa [heq, daysOfMonths_twelve]
  · by_contra hnot
    exact Nat.findGreatest_is_greatest (P := fun month => daysOfMonths year month ≤ days)
      (Nat.lt_succ_self _) (Nat.le_of_lt_succ hlt) (Nat.le_of_not_lt hnot)

theorem ofDays_spec (days : Nat) :
    (ofDays days).IsValid ∧ daysBeforeYear (ofDays days).year + (ofDays days).dayOfYear = days + 1 := by
  obtain ⟨hyear, hnext⟩ := yearOf_spec days
  have hrest : days - daysBeforeYear (yearOf days) < yearLength (yearOf days) := by
    rw [daysBeforeYear_succ (yearOf days)] at hnext
    rw [yearLength]
    omega
  obtain ⟨hmonth, hmonths, hfrom, hto⟩ := monthOf_spec hrest
  rw [daysOfMonths_eq hmonth] at hto
  refine ⟨⟨hmonth, hmonths, Nat.le_add_left 1 _, ?_⟩, ?_⟩
  · simp only [ofDays]
    omega
  · simp only [ofDays, dayOfYear]
    omega

/-- **A number is that of its date.** -/
theorem ofDayNumber_spec {n : Int} (h : -(daysBeforeYear 1970 : Int) ≤ n) :
    (ofDayNumber n).IsValid ∧ (ofDayNumber n).dayNumber = n := by
  obtain ⟨hvalid, hdays⟩ := ofDays_spec (n + daysBeforeYear 1970).toNat
  refine ⟨hvalid, ?_⟩
  rw [dayNumber_eq, ofDayNumber, hdays]
  omega

end Date

end DocQuery
