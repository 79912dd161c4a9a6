import DocQuery.Calendar.Extended
import DocQuery.Proofs.Calendar.Instant

/-!
# Dates of extended documents

A complete date-time can also stand in an extended document. The two instants differ at most by the
rounding of a part of a millisecond before the epoch.

* `Rfc3339.read?_mono`: what is read of a date-time does not depend on what else could be read.
* **`ExtendedDate.millis?_of_rfc3339`**: its instant in an extended document.
-/

namespace DocQuery

namespace Rfc3339

variable {separator? separator'? : Text → Option Text} {last last' : Nat} {text : Text} {p : Parts}

/-- **What is read stays the same** where more separators and more seconds are allowed. -/
theorem read?_mono
    (hseparators : ∀ text rest, separator? text = some rest → separator'? text = some rest)
    (hlast : last ≤ last') (h : read? separator? last text = some p) :
    p.second ≤ last ∧ read? separator'? last' text = some p := by
  obtain ⟨⟨year, behindYear⟩, hyear, h⟩ := Option.bind_eq_some_iff.mp h
  obtain ⟨atMonth, hhyphen, h⟩ := Option.bind_eq_some_iff.mp h
  obtain ⟨⟨month, behindMonth⟩, hmonth, h⟩ := Option.bind_eq_some_iff.mp h
  obtain ⟨atDay, hhyphen', h⟩ := Option.bind_eq_some_iff.mp h
  obtain ⟨⟨day, behindDay⟩, hday, h⟩ := Option.bind_eq_some_iff.mp h
  obtain ⟨atHour, hseparator, h⟩ := Option.bind_eq_some_iff.mp h
  obtain ⟨⟨hour, behindHour⟩, hhour, h⟩ := Option.bind_eq_some_iff.mp h
  obtain ⟨atMinute, hcolon, h⟩ := Option.bind_eq_some_iff.mp h
  obtain ⟨⟨minute, behindMinute⟩, hminute, h⟩ := Option.bind_eq_some_iff.mp h
  obtain ⟨atSecond, hcolon', h⟩ := Option.bind_eq_some_iff.mp h
  obtain ⟨⟨second, behindSecond⟩, hsecond, h⟩ := Option.bind_eq_some_iff.mp h
  obtain ⟨⟨fraction, behindFraction⟩, hfraction, h⟩ := Option.bind_eq_some_iff.mp h
  obtain ⟨zone, hzone, h⟩ := Option.bind_eq_some_iff.mp h
  cases h
  obtain ⟨digits, hdigits, rfl⟩ := field?_eq_some_iff_isField.mp hsecond
  have hsecond' := hdigits.read?_of_le (Nat.le_refl 0) hlast behindSecond
  refine ⟨hdigits.high, ?_⟩
  simp only [read?, hyear, hhyphen, hmonth, hhyphen', hday, hseparators _ _ hseparator, hhour,
    hcolon, hminute, hcolon', hsecond', hfraction, hzone, Option.bind_eq_bind, Option.bind_some]
  rfl

end Rfc3339

namespace ExtendedDate

open Rfc3339

theorem anySeparator?_of_separator? {text rest : Text} (h : separator? text = some rest) :
    anySeparator? text = some rest := by
  cases text with
  | nil => cases h
  | cons c text =>
    obtain ⟨hc, heq⟩ := Option.ite_none_right_eq_some.mp h
    simp only [Bool.or_eq_true, decide_eq_true_eq] at hc
    rcases hc with (rfl | rfl) | rfl <;> exact heq

/-- Rounding towards the epoch is rounding down, but for a part of a millisecond before it. -/
theorem tdiv_millis (second : Int) (nanos : Nat) :
    (second * 1000000000 + nanos).tdiv 1000000 = second * 1000 + (nanos / 1000000 : Nat) ∨
      second * 1000 + (nanos / 1000000 : Nat) < 0 ∧
        (second * 1000000000 + nanos).tdiv 1000000 =
          second * 1000 + (nanos / 1000000 : Nat) + 1 := by
  rw [Int.tdiv_eq_ediv]
  split
  · omega
  · rename_i hbefore
    have hsign : Int.sign 1000000 = 1 := rfl
    rw [hsign]
    omega

/-- **A complete date-time has the same instant** in an extended document, but that a part of a
millisecond before the epoch is rounded up. -/
theorem millis?_of_rfc3339 {text : Text} {millis : Int} (h : Rfc3339.millis? text = some millis) :
    ExtendedDate.millis? text = some millis ∨
      millis < 0 ∧ ExtendedDate.millis? text = some (millis + 1) := by
  obtain ⟨p, hread, hmillis⟩ := Option.bind_eq_some_iff.mp h
  obtain ⟨hpossible, hmillis⟩ := Option.ite_none_right_eq_some.mp hmillis
  obtain ⟨hsecond, hread'⟩ := read?_mono (fun _ _ => anySeparator?_of_separator?)
    (show 59 ≤ 60 by decide) hread
  have hleap : isLeap p = false := decide_eq_false (by omega)
  have hparts : ExtendedDate.millis? text =
      some ((secondOf p * 1000000000 + nanosOf p).tdiv 1000000) := by
    rw [ExtendedDate.millis?, hread']
    exact if_pos ⟨hpossible, fun hyes => absurd hyes (by simp [hleap])⟩
  have hnanos : nanosOf p = p.nanos := by simp [nanosOf, hleap]
  have hinstant : millis = secondOf p * 1000 + (nanosOf p / 1000000 : Nat) := by
    rw [← Option.some.inj hmillis, instant, secondOf, hleap, hnanos]
    rfl
  rw [hparts, hinstant, Option.some.injEq, Option.some.injEq]
  exact tdiv_millis (secondOf p) (nanosOf p)

end ExtendedDate

end DocQuery
