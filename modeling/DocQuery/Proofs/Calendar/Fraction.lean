import DocQuery.Proofs.Calendar.Instant
import Mathlib.Algebra.Order.Floor.Semifield
import Mathlib.Data.Rat.Floor
import Mathlib.Tactic.FieldSimp
import Mathlib.Tactic.Ring

/-!
# Fractions of a second

* `fractionValue`: the number that the digits behind a point write.
  **`nanosOfFraction_eq_floor`** says that the nanoseconds are those of this number, cut off.
* `nanosWord?`: the nanoseconds counted in words of 32 bits, with a check at each step.
  **`nanosWord?_eq_some_iff`** says that no check fails, however many digits there are.
* `Stamp.time`: the time of day of a stamp. `Stamp.checkedTime?` is the one counted in words, which
  must be one of a day: **`Stamp.Writes.checkedTime?_eq`** says that it always is.
-/

namespace DocQuery

/-! ## The number behind a point -/

/-- The number that digits write behind a point: each digit counts a tenth of the one in front. -/
def fractionValue : Text → ℚ
  | [] => 0
  | c :: digits => ((c.toNat - '0'.toNat : Nat) + fractionValue digits) / 10

theorem fractionValue_eq (digits : Text) :
    fractionValue digits = (digitsValue digits : ℚ) / (powerOfTen digits.length : ℚ) := by
  induction digits with
  | nil => simp [fractionValue, digitsValue]
  | cons c digits ih =>
    have hpos : (powerOfTen digits.length : ℚ) ≠ 0 :=
      Nat.cast_ne_zero.mpr (powerOfTen_pos _).ne'
    rw [fractionValue, ih, digitsValue_cons, List.length_cons, powerOfTen_succ]
    push_cast
    field_simp

theorem nanosOfFraction_eq_div {digits : Text} (h : IsDigits digits) :
    nanosOfFraction digits = digitsValue digits * 1000000000 / powerOfTen digits.length := by
  have hnine : powerOfTen 9 = 1000000000 := by decide
  rw [nanosOfFraction_eq h, hnine]

/-- **The nanoseconds of a fraction** are cut off to a whole number. -/
theorem nanosOfFraction_eq_floor {digits : Text} (h : IsDigits digits) :
    nanosOfFraction digits = ⌊1000000000 * fractionValue digits⌋₊ := by
  have hvalue : 1000000000 * fractionValue digits =
      ((digitsValue digits * 1000000000 : Nat) : ℚ) / (powerOfTen digits.length : ℚ) := by
    rw [fractionValue_eq]
    push_cast
    ring
  rw [nanosOfFraction_eq_div h, hvalue, Nat.floor_div_eq_div]

theorem nanosOfFraction_lt {digits : Text} (h : IsDigits digits) :
    nanosOfFraction digits < 1000000000 := by
  rw [nanosOfFraction_eq_div h]
  exact Nat.div_lt_of_lt_mul (Nat.mul_lt_mul_of_pos_right (digitsValue_lt h) (by decide))

/-! ## Words of 32 bits -/

/-- A number as a word, none if it does not fit. -/
def toUInt32? (n : Nat) : Option UInt32 := if n < UInt32.size then some (.ofNat n) else none

/-- Digits read one by one behind a word, none if a number on the way does not fit. -/
def digitsWord? (word : UInt32) : Text → Option UInt32
  | [] => some word
  | c :: digits => do
    let tens ← toUInt32? (word.toNat * 10)
    let word ← toUInt32? (tens.toNat + (c.toNat - '0'.toNat))
    digitsWord? word digits

/-- A power of ten, multiplied step by step, none if a number on the way does not fit. -/
def powerWord? : Nat → Option UInt32
  | 0 => some 1
  | exponent + 1 => do
    let power ← powerWord? exponent
    toUInt32? (power.toNat * 10)

/-- The nanoseconds of a fraction, none if a number on the way does not fit. -/
def nanosWord? (digits : Text) : Option UInt32 := do
  let number ← digitsWord? 0 (digits.take 9)
  let scale ← powerWord? (9 - (digits.take 9).length)
  toUInt32? (number.toNat * scale.toNat)

section Words

variable {n exponent : Nat} {w word : UInt32} {digits : Text}

theorem toUInt32?_eq_some_iff : toUInt32? n = some w ↔ w.toNat = n := by
  rw [toUInt32?, Option.ite_none_right_eq_some, Option.some.injEq]
  constructor
  · rintro ⟨hlt, rfl⟩
    exact UInt32.toNat_ofNat_of_lt' hlt
  · rintro rfl
    exact ⟨w.toNat_lt_size, UInt32.ofNat_toNat⟩

theorem exists_toNat_eq (h : n < UInt32.size) : ∃ w : UInt32, w.toNat = n :=
  ⟨.ofNat n, UInt32.toNat_ofNat_of_lt' h⟩

theorem exists_toNat_eq_of_le (h : n ≤ w.toNat) : ∃ v : UInt32, v.toNat = n :=
  exists_toNat_eq (h.trans_lt w.toNat_lt_size)

/-- **Digits are read into a word** just if their number fits: the numbers on the way are smaller. -/
theorem digitsWord?_eq_some_iff :
    digitsWord? word digits = some w ↔
      w.toNat = word.toNat * powerOfTen digits.length + digitsValue digits := by
  induction digits generalizing word with
  | nil =>
    have hone : word.toNat * powerOfTen 0 + digitsValue [] = word.toNat := Nat.mul_one _
    rw [digitsWord?, Option.some.injEq, List.length_nil, hone, ← UInt32.toNat_inj, eq_comm]
  | cons c digits ih =>
    have hstep : word.toNat * powerOfTen (c :: digits).length + digitsValue (c :: digits) =
        (word.toNat * 10 + (c.toNat - '0'.toNat)) * powerOfTen digits.length +
          digitsValue digits := by
      rw [digitsValue_cons, List.length_cons, powerOfTen_succ]
      ring
    simp only [digitsWord?, Option.bind_eq_bind, Option.bind_eq_some_iff, toUInt32?_eq_some_iff, ih,
      hstep]
    constructor
    · rintro ⟨tens, htens, next, hnext, hw⟩
      rw [hw, hnext, htens]
    · intro hw
      have hle : word.toNat * 10 + (c.toNat - '0'.toNat) ≤ w.toNat :=
        hw ▸ (Nat.le_mul_of_pos_right _ (powerOfTen_pos _)).trans (Nat.le_add_right _ _)
      obtain ⟨tens, htens⟩ := exists_toNat_eq_of_le ((Nat.le_add_right _ _).trans hle)
      obtain ⟨next, hnext⟩ := exists_toNat_eq_of_le hle
      exact ⟨tens, htens, next, htens ▸ hnext, hnext ▸ hw⟩

theorem powerWord?_eq_some_iff : powerWord? exponent = some w ↔ w.toNat = powerOfTen exponent := by
  induction exponent generalizing w with
  | zero => rw [powerWord?, Option.some.injEq, ← UInt32.toNat_inj, eq_comm]; rfl
  | succ exponent ih =>
    simp only [powerWord?, Option.bind_eq_bind, Option.bind_eq_some_iff, toUInt32?_eq_some_iff, ih,
      powerOfTen_succ]
    constructor
    · rintro ⟨power, hpower, hw⟩
      rw [hw, hpower]
    · intro hw
      obtain ⟨power, hpower⟩ := exists_toNat_eq_of_le (hw ▸ Nat.le_mul_of_pos_right _ (by decide))
      exact ⟨power, hpower, hpower ▸ hw⟩

/-- **The nanoseconds counted in words** are those of the fraction: no check on the way fails. -/
theorem nanosWord?_eq_some_iff (h : IsDigits digits) :
    nanosWord? digits = some w ↔ w.toNat = nanosOfFraction digits := by
  have hzero : (0 : UInt32).toNat = 0 := rfl
  simp only [nanosWord?, Option.bind_eq_bind, Option.bind_eq_some_iff, toUInt32?_eq_some_iff,
    digitsWord?_eq_some_iff, powerWord?_eq_some_iff, hzero, Nat.zero_mul, Nat.zero_add]
  constructor
  · rintro ⟨number, hnumber, scale, hscale, hw⟩
    rw [hw, hnumber, hscale, nanosOfFraction]
  · intro hw
    have hnine : powerOfTen 9 < UInt32.size := by decide
    have hnumber : digitsValue (digits.take 9) < UInt32.size :=
      calc digitsValue (digits.take 9)
          < powerOfTen (digits.take 9).length :=
            digitsValue_lt fun c hc => h c (List.mem_of_mem_take hc)
        _ ≤ powerOfTen 9 := powerOfTen_le (List.length_take_le 9 digits)
        _ < UInt32.size := hnine
    have hscale : powerOfTen (9 - (digits.take 9).length) < UInt32.size :=
      (powerOfTen_le (Nat.sub_le 9 _)).trans_lt hnine
    obtain ⟨number, hnumber⟩ := exists_toNat_eq hnumber
    obtain ⟨scale, hscale⟩ := exists_toNat_eq hscale
    exact ⟨number, hnumber, scale, hscale, by rw [hw, hnumber, hscale, nanosOfFraction]⟩

theorem exists_nanosWord? (h : IsDigits digits) :
    ∃ word, nanosWord? digits = some word ∧ word.toNat = nanosOfFraction digits := by
  obtain ⟨word, hword⟩ := exists_toNat_eq ((nanosOfFraction_lt h).trans (by decide))
  exact ⟨word, (nanosWord?_eq_some_iff h).mpr hword, hword⟩

end Words

/-! ## Times of day -/

/-- A time of day by its parts. -/
structure Time where
  hour : Nat
  minute : Nat
  second : Nat
  nanos : Nat
deriving DecidableEq, Repr

namespace Time

/-- Each part is one of a day, an hour, a minute and a second. -/
def IsValid (t : Time) : Prop :=
  t.hour < 24 ∧ t.minute < 60 ∧ t.second < 60 ∧ t.nanos < 1000000000

instance (t : Time) : Decidable t.IsValid := by unfold IsValid; infer_instance

/-- The second of the day. -/
def secondOfDay (t : Time) : Nat := (t.hour * 60 + t.minute) * 60 + t.second

end Time

namespace Stamp

/-- The digits of the fraction of the second, if one is written. -/
def fraction (s : Stamp) : Option Text := (s.clock.bind Clock.seconds).bind Seconds.fraction

/-- The time of day, with zero for each part that is missing. -/
def time (s : Stamp) : Time where
  hour := (s.clock.map Clock.hour).getD 0
  minute := (s.clock.map Clock.minute).getD 0
  second := ((s.clock.bind Clock.seconds).map Seconds.second).getD 0
  nanos := (s.fraction.map nanosOfFraction).getD 0

/-- The time of day with the nanoseconds counted in words, none if a number on the way does not fit or
the parts are not those of a time. -/
def checkedTime? (s : Stamp) : Option Time := do
  let nanos ← (s.fraction.map nanosWord?).getD (some 0)
  let time : Time := { s.time with nanos := nanos.toNat }
  if time.IsValid then some time else none

/-- The instant with every check on the way to it. -/
def checkedMillis? (s : Stamp) : Option Int := do
  let time ← s.checkedTime?
  if s.date.IsValid ∧ s.zone.seconds.natAbs < 86400 then
    some (instant s.date time.secondOfDay time.nanos s.zone.seconds)
  else none

end Stamp

section Times

variable {s : Stamp} {text digits : Text}

theorem Seconds.Writes.isDigits {seconds : Seconds} (h : seconds.Writes text)
    (hdigits : seconds.fraction = some digits) : IsDigits digits := by
  cases h with
  | parts _ hfraction =>
    cases hfraction with
    | none => cases hdigits
    | some h =>
      cases hdigits
      exact h.2.2

theorem Clock.Writes.isDigits {c : Clock} (h : c.Writes text)
    (hdigits : c.seconds.bind Seconds.fraction = some digits) : IsDigits digits := by
  cases h with
  | parts _ _ hseconds =>
    cases hseconds with
    | none => cases hdigits
    | some h => exact h.isDigits hdigits

theorem Seconds.Writes.second_lt {seconds : Seconds} (h : seconds.Writes text) :
    seconds.second < 60 := by
  cases h with
  | parts hsecond => exact Nat.lt_succ_of_le hsecond.high

namespace Stamp

theorem Writes.isDigits (h : s.Writes text) (hdigits : s.fraction = some digits) :
    IsDigits digits := by
  cases h with
  | parts _ _ _ _ hclock =>
    cases hclock with
    | none => cases hdigits
    | some h => exact h.isDigits hdigits

theorem time_nanos (s : Stamp) : s.time.nanos = s.nanos := by
  rw [time, fraction, nanos]
  cases s.clock.bind Clock.seconds with
  | none => rfl
  | some seconds => rfl

theorem time_secondOfDay (s : Stamp) : s.time.secondOfDay = s.secondOfDay := by
  rw [time, Time.secondOfDay, secondOfDay]
  cases s.clock with
  | none => rfl
  | some c => rfl

theorem Writes.nanos_lt (h : s.Writes text) : s.time.nanos < 1000000000 := by
  rw [time]
  cases hfraction : s.fraction with
  | none => exact Nat.zero_lt_succ _
  | some digits => exact nanosOfFraction_lt (h.isDigits hfraction)

/-- **The time of day of a stamp** that is written is valid. -/
theorem Writes.isValid_time (h : s.Writes text) : s.time.IsValid := by
  have hnanos := h.nanos_lt
  cases h with
  | parts _ _ _ _ hclock =>
    cases hclock with
    | none => exact ⟨Nat.zero_lt_succ _, Nat.zero_lt_succ _, Nat.zero_lt_succ _, hnanos⟩
    | some hclock =>
      cases hclock with
      | parts hhour hminute hseconds =>
        have hsecond := hseconds.getD_map_lt (by decide) Seconds.Writes.second_lt
        exact ⟨Nat.lt_succ_of_le hhour.high, Nat.lt_succ_of_le hminute.high, hsecond, hnanos⟩

/-- **No check fails** on the way to the time of day. -/
theorem Writes.checkedTime?_eq (h : s.Writes text) : s.checkedTime? = some s.time := by
  have hnanos : ∃ word : UInt32, (s.fraction.map nanosWord?).getD (some 0) = some word ∧
      word.toNat = s.time.nanos := by
    rw [time]
    cases hfraction : s.fraction with
    | none => exact ⟨0, rfl, rfl⟩
    | some digits => exact exists_nanosWord? (h.isDigits hfraction)
  obtain ⟨word, hword, hnanos⟩ := hnanos
  rw [checkedTime?, hword, Option.bind_eq_bind, Option.bind_some, hnanos]
  exact if_pos h.isValid_time

theorem Writes.checkedMillis?_eq (h : s.Writes text) : s.checkedMillis? = s.millis? := by
  rw [checkedMillis?, h.checkedTime?_eq, Option.bind_eq_bind, Option.bind_some, time_secondOfDay,
    time_nanos, millis?]

theorem Writes.exists_readLiteral_iff (h : s.Writes text) :
    (∃ millis, readLiteral text = .dateTime millis) ↔ s.IsPossible :=
  (exists_congr fun _ => h.readLiteral_eq_dateTime_iff).trans isPossible_iff.symm

end Stamp

end Times

/-- **Fractions of a second.** Digits behind a point, however many, are the nanoseconds of the number
that they write there, cut off. No number on the way leaves a word of 32 bits. The nanoseconds are
less than a second, so that the time of day built from them is valid, and whether the text is a date
depends on the day and the zone alone. -/
theorem nanosOfFraction_exact {digits : Text} (h : IsDigits digits) :
    nanosOfFraction digits = ⌊1000000000 * fractionValue digits⌋₊ ∧
      (∃ word, nanosWord? digits = some word ∧ word.toNat = nanosOfFraction digits) ∧
        nanosOfFraction digits < 1000000000 ∧
          ∀ (s : Stamp) (text : Text), s.Writes text → s.fraction = some digits →
            s.time.nanos = nanosOfFraction digits ∧ s.time.IsValid ∧
              s.checkedTime? = some s.time ∧ s.checkedMillis? = s.millis? ∧
                ((∃ millis, readLiteral text = .dateTime millis) ↔ s.IsPossible) := by
  refine ⟨nanosOfFraction_eq_floor h, exists_nanosWord? h, nanosOfFraction_lt h,
    fun s text hs hdigits => ⟨?_, hs.isValid_time, hs.checkedTime?_eq, hs.checkedMillis?_eq,
      hs.exists_readLiteral_iff⟩⟩
  rw [Stamp.time, hdigits, Option.map_some, Option.getD_some]

/-- The last nanosecond of a leap day, with digits past it. -/
theorem nanosOfFraction_exact_leap_day :
    IsDigits "9999999999".toList ∧
      nanosOfFraction "9999999999".toList = ⌊1000000000 * fractionValue "9999999999".toList⌋₊ ∧
        Stamp.Writes ⟨2016, 2, some 29, some 'T', some ⟨23, 59, some ⟨59, some "9999999999".toList⟩,
            none⟩⟩ "2016-02-29T23:59:59.9999999999".toList ∧
          Time.IsValid ⟨23, 59, 59, nanosOfFraction "9999999999".toList⟩ ∧
            ∃ millis, readLiteral "2016-02-29T23:59:59.9999999999".toList = .dateTime millis := by
  have hwrites : Stamp.Writes ⟨2016, 2, some 29, some 'T',
      some ⟨23, 59, some ⟨59, some "9999999999".toList⟩, none⟩⟩
      "2016-02-29T23:59:59.9999999999".toList := Stamp.read?_eq_some_iff.mp rfl
  have hdigits : IsDigits "9999999999".toList := hwrites.isDigits rfl
  obtain ⟨hfloor, -, -, hstamps⟩ := nanosOfFraction_exact hdigits
  obtain ⟨-, hvalid, -, -, hdate⟩ := hstamps _ _ hwrites rfl
  exact ⟨hdigits, hfloor, hwrites, hvalid, hdate.mpr ⟨by decide, by decide⟩⟩

end DocQuery
