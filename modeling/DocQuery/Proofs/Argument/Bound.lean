import DocQuery.Error
import DocQuery.Proofs.Number.Digits
import DocQuery.Proofs.Outcome
import DocQuery.Proofs.Text.Blank

/-!
# Bounds as they are written

* `Bound.Reads`: the numbers of values and what is wrong with other values.
* **`readBound_eq_iff`**: a value is read just so.
* **`readBound_exact`**: how the values of bounds are classified.
-/

namespace DocQuery

open Outcome

variable {value t : Text} {m : Int}

/-! ## What is wrong with a value -/

/-- What a value says. It is empty, or between its blanks it writes an integer that fits, behind a
minus sign if it is negative. Any other value is bad. -/
inductive Bound.Reads : Text → Except BoundFault Nat → Prop
  | empty : Reads [] (.ok 0)
  | number {value t : Text} {n : Nat} (ht : value.TrimsTo t) (hwrites : WritesInteger n t)
      (hn : n < 0x8000000000000000) : Reads value (.ok n)
  | negative {value digits : Text} (ht : value.TrimsTo ('-' :: digits)) (hne : digits ≠ [])
      (hdigits : IsDigits digits) (hpos : 0 < digitsValue digits)
      (hle : digitsValue digits ≤ 0x8000000000000000) : Reads value (.error .negative)
  | bad {value : Text} (hvalue : value ≠ [])
      (h : ∀ t m, value.TrimsTo t → WritesInteger m t →
        m < -0x8000000000000000 ∨ 0x8000000000000000 ≤ m) : Reads value (.error .bad)

/-- A negative integer is written in digits behind a minus sign. -/
theorem exists_digits_of_negative (h : WritesInteger m t) (hm : m < 0) :
    ∃ digits, t = '-' :: digits ∧ digits ≠ [] ∧ IsDigits digits ∧ m = -(digitsValue digits : Int) := by
  obtain @⟨negative, sign, digits, hsign, hne, hdigits⟩ := h
  cases hsign with
  | none | plus =>
    rw [signed, if_neg Bool.false_ne_true] at hm
    omega
  | minus => exact ⟨digits, rfl, hne, hdigits, rfl⟩

/-- An integer that fits is the number of the value that it stands in, or a negative one. -/
theorem readBound_of_writes (ht : value.TrimsTo t) (hwrites : WritesInteger m t)
    (hlow : -0x8000000000000000 ≤ m) (hhigh : m < 0x8000000000000000) :
    readBound value = if m < 0 then .error .negative else .ok m.toNat := by
  obtain ⟨word, rfl⟩ := exists_toInt_eq_iff.mpr ⟨hlow, hhigh⟩
  have hread : (integer? value.trim).bind toInt64? = some word := by
    rw [ht.trim_eq]
    exact integer?_bind_toInt64?_eq_some_iff.mpr hwrites
  have hvalue : ¬ value.isEmpty = true := by
    rw [List.isEmpty_iff]
    rintro rfl
    cases hread
  rw [readBound, if_neg hvalue, hread]

theorem Bound.Reads.readBound_eq {outcome : Except BoundFault Nat} (h : Reads value outcome) :
    readBound value = outcome := by
  cases h with
  | empty => rfl
  | number ht hwrites hn =>
    rw [readBound_of_writes ht hwrites (by omega) (by omega), if_neg (by omega), Int.toNat_natCast]
  | negative ht hne hdigits hpos hle =>
    have hwrites := WritesInteger.digits .minus hne hdigits
    rw [signed, if_pos rfl] at hwrites
    rw [readBound_of_writes ht hwrites (by omega) (by omega), if_pos (by omega)]
  | bad hvalue h =>
    have hnone : (integer? value.trim).bind toInt64? = none :=
      integer?_bind_toInt64?_eq_none_iff.mpr fun m => h _ m (Text.trimsTo_trim value)
    rw [readBound, if_neg (by simpa using hvalue), hnone]

theorem Bound.exists_reads (value : Text) : ∃ outcome, Reads value outcome := by
  by_cases hfits : ∃ t m, value.TrimsTo t ∧ WritesInteger m t ∧
      -0x8000000000000000 ≤ m ∧ m < 0x8000000000000000
  · obtain ⟨t, m, ht, hwrites, hlow, hhigh⟩ := hfits
    by_cases hneg : m < 0
    · obtain ⟨digits, rfl, hne, hdigits, rfl⟩ := exists_digits_of_negative hwrites hneg
      exact ⟨_, .negative ht hne hdigits (by omega) (by omega)⟩
    · obtain ⟨n, rfl⟩ := Int.eq_ofNat_of_zero_le (by omega : 0 ≤ m)
      exact ⟨_, .number ht hwrites (by omega)⟩
  · by_cases hvalue : value = []
    · subst hvalue
      exact ⟨_, .empty⟩
    · refine ⟨_, .bad hvalue fun t m ht hwrites => ?_⟩
      by_contra hm
      exact hfits ⟨t, m, ht, hwrites, by omega, by omega⟩

/-- **A value is read just as what it says.** -/
theorem readBound_eq_iff {outcome : Except BoundFault Nat} :
    readBound value = outcome ↔ Bound.Reads value outcome := by
  refine ⟨?_, Bound.Reads.readBound_eq⟩
  rintro rfl
  obtain ⟨outcome, h⟩ := Bound.exists_reads value
  rwa [h.readBound_eq]

/-! ## Blanks and digits -/

theorem isBlank_of_isDigit {c : Char} (h : c.isDigit = true) : isBlank c = false := by
  obtain ⟨hlow, hhigh⟩ := toNat_of_isDigit h
  simp only [Char.reduceToNat] at hlow hhigh
  simp only [isBlank, inRanges, blankRanges, List.any_cons, List.any_nil, Bool.or_false,
    Bool.or_eq_false_iff, Bool.and_eq_false_iff, decide_eq_false_iff_not]
  omega

/-- Between blanks, digits are what is left without the blanks. -/
theorem trimsTo_of_isDigits {before digits after : Text} (hbefore : IsBlanks before)
    (hafter : IsBlanks after) (hdigits : IsDigits digits) :
    Text.TrimsTo (before ++ (digits ++ after)) digits := by
  refine ⟨⟨before, after, hbefore, hafter, rfl⟩, fun c hc => ?_, fun c hc => ?_⟩
  · exact isBlank_of_isDigit (hdigits c (List.mem_of_head? hc))
  · exact isBlank_of_isDigit (hdigits c (List.mem_of_getLast? hc))

theorem trimsTo_of_isBlanks (h : IsBlanks value) : value.TrimsTo [] :=
  ⟨⟨value, [], h, List.forall_mem_nil _, by simp⟩, nofun, nofun⟩

theorem not_writesInteger_nil : ¬ WritesInteger m [] := by
  rw [← integer?_eq_some_iff]
  nofun

/-- What stands between the blanks of a value of blanks is no integer. -/
theorem not_writesInteger_of_isBlanks (hvalue : IsBlanks value) (ht : value.TrimsTo t) :
    ¬ WritesInteger m t := by
  obtain rfl : t = [] := ht.trim_eq.symm.trans (trimsTo_of_isBlanks hvalue).trim_eq
  exact not_writesInteger_nil

theorem writesInteger_toDigits (n : Nat) : WritesInteger n (Nat.toDigits 10 n) :=
  integer?_eq_some_iff.mp (integer?_decimal n)

/-! ## Classification -/

/-- **Values of bounds.** A value has a number or an error of its bound just as it says. An integer
that does not fit and blanks without an integer are bad, a number that is read fits, and each
number that fits is read back from its digits between any blanks. -/
theorem readBound_exact (bound : Bound) :
    (∀ (value : Text) (n : Nat), (readBound value).mapError (QueryError.bound bound) = .ok n ↔
      Bound.Reads value (.ok n)) ∧
      (∀ (value : Text) (e : QueryError),
        (readBound value).mapError (QueryError.bound bound) = .error e ↔
          ∃ fault, Bound.Reads value (.error fault) ∧ e = .bound bound fault) ∧
      (∀ (value t : Text) (m : Int), value.TrimsTo t → WritesInteger m t →
        m < -0x8000000000000000 ∨ 0x8000000000000000 ≤ m → readBound value = .error .bad) ∧
      (∀ value : Text, value ≠ [] → IsBlanks value → readBound value = .error .bad) ∧
      (∀ (value : Text) (n : Nat), readBound value = .ok n → n < 0x8000000000000000) ∧
      ∀ (n : Nat) (before after : Text), n < 0x8000000000000000 → IsBlanks before →
        IsBlanks after → readBound (before ++ (Nat.toDigits 10 n ++ after)) = .ok n := by
  refine ⟨fun value n => ?_, fun value e => ?_, fun value t m ht hwrites hm => ?_,
    fun value hvalue hblanks => ?_, fun value n h => ?_, fun n before after hn hbefore hafter => ?_⟩
  · rw [mapError_eq_ok, readBound_eq_iff]
  · simp only [mapError_eq_error, readBound_eq_iff, eq_comm (a := e)]
  · refine readBound_eq_iff.mpr (.bad ?_ fun t' m' ht' hwrites' => ?_)
    · rintro rfl
      exact not_writesInteger_of_isBlanks (List.forall_mem_nil _) ht hwrites
    · obtain rfl : t' = t := ht'.trim_eq.symm.trans ht.trim_eq
      rwa [hwrites'.eq hwrites]
  · exact readBound_eq_iff.mpr
      (.bad hvalue fun t m ht hwrites => absurd hwrites (not_writesInteger_of_isBlanks hblanks ht))
  · cases readBound_eq_iff.mp h with
    | empty => decide
    | number _ _ hn => exact hn
  · have hdigits : IsDigits (Nat.toDigits 10 n) := fun c => isDigit_of_mem_toDigits
    have ht := trimsTo_of_isDigits hbefore hafter hdigits
    exact readBound_eq_iff.mpr (.number ht (writesInteger_toDigits n) hn)

/-- The largest number between blanks, an integer that is too small to fit, and a blank. -/
theorem readBound_exact_ends :
    readBound ("\t ".toList ++ (Nat.toDigits 10 0x7FFFFFFFFFFFFFFF ++ "\u2003".toList)) =
        .ok 0x7FFFFFFFFFFFFFFF ∧
      readBound " -9223372036854775809".toList = .error .bad ∧
        readBound "\u00A0".toList = .error .bad ∧
          (readBound "-0".toList).mapError (QueryError.bound .skip) = .ok 0 := by
  obtain ⟨hok, -, hoverflow, hblanks, -, hread⟩ := readBound_exact .skip
  have hbefore : IsBlanks "\t ".toList := List.all_eq_true.mp (by decide)
  have hafter : IsBlanks "\u2003".toList := List.all_eq_true.mp (by decide)
  have hblank : IsBlanks "\u00A0".toList := List.all_eq_true.mp (by decide)
  have hsmall : Text.TrimsTo " -9223372036854775809".toList "-9223372036854775809".toList :=
    Text.trim_eq_iff.mp (by decide)
  have hwrites : WritesInteger (-0x8000000000000001) "-9223372036854775809".toList :=
    integer?_eq_some_iff.mp rfl
  have hzero : Bound.Reads "-0".toList (.ok 0) :=
    .number (t := "-0".toList) (Text.trim_eq_iff.mp (by decide)) (integer?_eq_some_iff.mp rfl)
      (by decide)
  exact ⟨hread _ _ _ (by decide) hbefore hafter, hoverflow _ _ _ hsmall hwrites (by decide),
    hblanks _ (by decide) hblank, (hok _ _).mpr hzero⟩

end DocQuery
