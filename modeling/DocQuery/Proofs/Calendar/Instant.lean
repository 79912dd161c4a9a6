import DocQuery.Proofs.Calendar.Day
import DocQuery.Proofs.Calendar.Grammar
import DocQuery.Proofs.Literal.Kind
import DocQuery.Proofs.Number.Digits

/-!
# The instants of stamps

* `Stamp.IsAt`: the instant of a stamp, with the days counted one by one.
* **`Stamp.Writes.millis?_eq_some_iff`**: a stamp that is written has just that instant.
* **`Stamp.Writes.millis?_of_rfc3339`**: a stamp that is a complete date-time has the instant of that
  one.
* `readLiteral_of_hasYear`: a text with a year in front is a date or no literal.
* **`readLiteral_eq_dateTime`**: a literal is a date just if it is a stamp with an instant.
-/

namespace DocQuery

/-! ## Instants -/

/-- The milliseconds of a fraction of a second. The digits past the third are cut off. -/
def millisOfFraction (digits : Text) : Nat :=
  digitsValue digits * 1000 / powerOfTen digits.length

/-- The milliseconds of a second with its fraction. -/
def Seconds.millis (s : Seconds) : Nat := s.second * 1000 + (s.fraction.map millisOfFraction).getD 0

/-- The milliseconds from the start of the day. -/
def Clock.millisOfDay (c : Clock) : Nat :=
  (c.hour * 60 + c.minute) * 60000 + (c.seconds.map Seconds.millis).getD 0

/-- The minutes that clocks in a zone are ahead of universal time. -/
def Zone.minutes : Zone → Int
  | utc => 0
  | offset behind hours minutes => signed behind (60 * hours + minutes)

namespace Stamp

/-- The milliseconds from the start of the day, none if no time is written. -/
def millisOfDay (s : Stamp) : Nat := (s.clock.map Clock.millisOfDay).getD 0

/-- The first day of the count. -/
def epoch : Date := ⟨1970, 1, 1⟩

/-- Whether a stamp has an instant: its day is one of the month and its zone less than a day away. -/
def IsPossible (s : Stamp) : Prop := s.date.IsValid ∧ s.zone.minutes.natAbs < 1440

/-- The instant of a stamp: the days from 1970-01-01 on, counted one by one, and the time of day less
what the zone is ahead. -/
structure IsAt (s : Stamp) (millis : Int) : Prop where
  possible : s.IsPossible
  counted : ∃ days : Int, Date.AreDaysApart days epoch s.date ∧
    millis = 86400000 * days + s.millisOfDay - 60000 * s.zone.minutes

end Stamp

/-! ## Stamps by their parts -/

theorem Zone.seconds_eq (z : Zone) : z.seconds = 60 * z.minutes := by
  cases z with
  | utc => rfl
  | offset behind hours minutes =>
    cases behind <;>
      simp only [Zone.seconds, Zone.minutes, signed, if_true, Bool.false_eq_true, if_false] <;> omega

theorem nanosOfFraction_eq {digits : Text} (h : IsDigits digits) :
    nanosOfFraction digits = digitsValue digits * powerOfTen 9 / powerOfTen digits.length :=
  digitsValue_take h 9

/-- The nanoseconds are cut off to the same milliseconds. -/
theorem nanosOfFraction_div {digits : Text} (h : IsDigits digits) :
    nanosOfFraction digits / 1000000 = millisOfFraction digits := by
  have hnine : powerOfTen 9 = 1000 * 1000000 := by decide
  rw [nanosOfFraction_eq h, Nat.div_right_comm, hnine, ← Nat.mul_assoc,
    Nat.mul_div_cancel _ (by decide), millisOfFraction]

theorem fractionMillis_eq {fraction : Option Text} {text : Text}
    (h : WritesOption ['.'] IsFraction fraction text) :
    (fraction.map millisOfFraction).getD 0 = (fraction.map nanosOfFraction).getD 0 / 1000000 := by
  cases h with
  | none => rfl
  | some h => exact (nanosOfFraction_div h.2.2).symm

theorem Seconds.Writes.millis_eq {s : Seconds} {text : Text} (h : s.Writes text) :
    s.millis = s.second * 1000 + s.nanos / 1000000 := by
  cases h with
  | parts _ hfraction => rw [Seconds.millis, Seconds.nanos, fractionMillis_eq hfraction]

namespace Stamp

variable {s : Stamp} {text : Text} {millis : Int}

theorem Writes.millisOfDay_eq (h : s.Writes text) :
    s.millisOfDay = s.secondOfDay * 1000 + s.nanos / 1000000 := by
  cases h with
  | parts _ _ _ _ hclock =>
    cases hclock with
    | none => simp [millisOfDay, secondOfDay, nanos]
    | some hclock =>
      cases hclock with
      | parts _ _ hseconds _ =>
        simp only [millisOfDay, secondOfDay, nanos, Clock.millisOfDay, Clock.secondOfDay,
          Option.map_some, Option.bind_some, Option.getD_some]
        cases hseconds with
        | none =>
          simp only [Option.map_none, Option.getD_none]
          omega
        | some hseconds =>
          simp only [Option.map_some, Option.getD_some, hseconds.millis_eq]
          omega

theorem areDaysApart_epoch_iff {d : Date} (h : d.IsValid) {days : Int} :
    Date.AreDaysApart days epoch d ↔ d.dayNumber = days := by
  have hepoch : epoch.IsValid := by decide
  have hzero : epoch.dayNumber = 0 := by decide
  rw [Date.areDaysApart_iff hepoch h, hzero, Int.zero_add]

/-- **A stamp that is written has just its instant.** -/
theorem Writes.millis?_eq_some_iff (h : s.Writes text) : s.millis? = some millis ↔ s.IsAt millis := by
  have hzone : s.zone.seconds.natAbs < 86400 ↔ s.zone.minutes.natAbs < 1440 := by
    rw [Zone.seconds_eq]
    omega
  rw [millis?, Option.ite_none_right_eq_some, Option.some.injEq, instant, hzone, Zone.seconds_eq]
  have hday := h.millisOfDay_eq
  constructor
  · rintro ⟨⟨hvalid, hzone⟩, rfl⟩
    exact ⟨⟨hvalid, hzone⟩, s.date.dayNumber, (areDaysApart_epoch_iff hvalid).mpr rfl, by omega⟩
  · rintro ⟨⟨hvalid, hzone⟩, days, hdays, rfl⟩
    rw [areDaysApart_epoch_iff hvalid] at hdays
    exact ⟨⟨hvalid, hzone⟩, by omega⟩

theorem isPossible_iff : s.IsPossible ↔ ∃ millis, s.IsAt millis := by
  refine ⟨fun hpossible => ?_, fun ⟨_, hat⟩ => hat.possible⟩
  exact ⟨_, hpossible, _, (areDaysApart_epoch_iff hpossible.1).mpr rfl, rfl⟩

end Stamp

/-! ## Bounds -/

section Bounds

variable {text digits : Text}

/-- What a part counts is below a bound if it is so for each part that is written. -/
theorem WritesOption.getD_map_lt {α : Type} {mark : Text} {writes : α → Text → Prop} {part : Option α}
    {f : α → Nat} {n : Nat} (h : WritesOption mark writes part text) (hpos : 0 < n)
    (hlt : ∀ {a : α} {t : Text}, writes a t → f a < n) : (part.map f).getD 0 < n := by
  cases h with
  | none => exact hpos
  | some h => exact hlt h

theorem millisOfFraction_lt (h : IsDigits digits) : millisOfFraction digits < 1000 :=
  Nat.div_lt_of_lt_mul (Nat.mul_lt_mul_of_pos_right (digitsValue_lt h) (by decide))

theorem fractionMillis_lt {fraction : Option Text} (h : WritesOption ['.'] IsFraction fraction text) :
    (fraction.map millisOfFraction).getD 0 < 1000 :=
  h.getD_map_lt (by decide) fun hfraction => millisOfFraction_lt hfraction.2.2

theorem Seconds.Writes.millis_lt {s : Seconds} (h : s.Writes text) : s.millis < 60000 := by
  cases h with
  | parts hsecond hfraction =>
    have hhigh := hsecond.high
    have hlt := fractionMillis_lt hfraction
    simp only [Seconds.millis]
    omega

theorem secondsMillis_lt {seconds : Option Seconds}
    (h : WritesOption [':'] Seconds.Writes seconds text) :
    (seconds.map Seconds.millis).getD 0 < 60000 :=
  h.getD_map_lt (by decide) Seconds.Writes.millis_lt

theorem Clock.Writes.millisOfDay_lt {c : Clock} (h : c.Writes text) : c.millisOfDay < 86400000 := by
  cases h with
  | parts hhour hminute hseconds =>
    have hhour := hhour.high
    have hminute := hminute.high
    have hlt := secondsMillis_lt hseconds
    simp only [Clock.millisOfDay]
    omega

theorem Stamp.Writes.millisOfDay_lt {s : Stamp} (h : s.Writes text) :
    s.millisOfDay < 86400000 := by
  cases h with
  | parts _ _ _ _ hclock => exact hclock.getD_map_lt (by decide) Clock.Writes.millisOfDay_lt

theorem Stamp.Writes.year_bounds {s : Stamp} (h : s.Writes text) : 1000 ≤ s.year ∧ s.year ≤ 2999 := by
  cases h with
  | parts hyear => exact ⟨hyear.low, hyear.high⟩

end Bounds

/-! ## Complete date-times -/

section Complete

variable {width low high low' high' n n' : Nat} {text t rest rest' : Text}

/-- A field has one reading, whatever bounds are asked of it. -/
theorem IsField.eq_of_read? (h : IsField width low high n t)
    (hread : field? width low' high' (t ++ rest) = some (n', rest')) : n' = n ∧ rest' = rest := by
  obtain ⟨t', ht', heq⟩ := field?_eq_some_iff_isField.mp hread
  obtain ⟨rfl, rfl⟩ := List.append_inj heq (h.length.trans ht'.length.symm)
  exact ⟨ht'.value.symm.trans h.value, rfl⟩

namespace Rfc3339

theorem eq_of_offset? {behind : Bool} {hours minutes : Nat} {h m : Text} {zone : Zone}
    (hhours : IsField 2 0 99 hours h) (hminutes : IsField 2 0 99 minutes m)
    (hread : offset? behind (h ++ ':' :: m) = some zone) : zone = .offset behind hours minutes := by
  obtain ⟨⟨hours', rest⟩, hfield, hread⟩ := Option.bind_eq_some_iff.mp hread
  obtain ⟨rest', hmark, hread⟩ := Option.bind_eq_some_iff.mp hread
  obtain ⟨⟨minutes', rest''⟩, hfield', hread⟩ := Option.bind_eq_some_iff.mp hread
  obtain ⟨rfl, rfl⟩ := hhours.eq_of_read? hfield
  rw [mark?_cons, Option.some.injEq] at hmark
  subst hmark
  rw [← List.append_nil m] at hfield'
  obtain ⟨rfl, rfl⟩ := hminutes.eq_of_read? hfield'
  cases hread
  rfl

/-- A zone of a complete date-time is one of a stamp. -/
theorem eq_of_zone? {zone : Option Zone} {z : Zone} (h : WritesOption [] Zone.Writes zone t)
    (hread : zone? t = some z) : zone = some z := by
  cases h with
  | none => cases hread
  | some h =>
    cases h with
    | utc =>
      cases hread
      rfl
    | @offset behind _ _ _ _ hhours hminutes =>
      cases behind <;> rw [eq_of_offset? hhours hminutes hread]

theorem separator?_eq_none (h : ∀ c ∈ text.head?, c.isDigit = true) : separator? text = none := by
  cases text with
  | nil => rfl
  | cons c text =>
    refine if_neg ?_
    have hc := h c rfl
    simp only [Bool.or_eq_true, decide_eq_true_eq]
    rintro ((rfl | rfl) | rfl) <;> cases hc

end Rfc3339

theorem IsSeparator.read? {c : Char} (h : IsSeparator c t) (rest : Text) :
    Rfc3339.separator? (t ++ rest) = some rest := by
  obtain ⟨rfl, rfl | rfl⟩ := h <;> rfl

theorem IsField.read?_of_le (h : IsField width low high n t) (hlow : low' ≤ low) (hhigh : high ≤ high')
    (rest : Text) : field? width low' high' (t ++ rest) = some (n, rest) :=
  field?_eq_some_iff_isField.mpr
    ⟨t, ⟨h.length, h.digits, h.value, hlow.trans h.low, h.high.trans hhigh⟩, rfl⟩

theorem mark?_eq_none {c : Char} (h : ∀ d ∈ text.head?, d ≠ c) : mark? c text = none := by
  cases text with
  | nil => rfl
  | cons d text => exact if_neg (h d rfl)

/-- **A stamp that is a complete date-time** has the instant of that one. -/
theorem Stamp.Writes.millis?_of_rfc3339 {s : Stamp} {millis : Int} (h : s.Writes text)
    (hmillis : Rfc3339.millis? text = some millis) : s.millis? = some millis := by
  obtain ⟨parts, hparts, hmillis⟩ := Option.bind_eq_some_iff.mp hmillis
  cases h with
  | parts hyear hmonth hday hseparator hclock =>
    have hhead := head?_of_writesClock hclock
    have hyear := hyear.read?_of_le (Nat.zero_le _) (show 2999 ≤ 9999 by decide)
    simp only [Rfc3339.read?, hyear, mark?_cons, hmonth.read?, Option.bind_eq_bind,
      Option.bind_some] at hparts
    -- A part that is missing leaves something behind that cannot stand there.
    cases hday with
    | none =>
      have hhyphen := mark?_eq_none (head?_of_writesSeparator hseparator hhead)
      simp only [List.nil_append, hhyphen, Option.bind_none, reduceCtorEq] at hparts
    | some hday =>
      simp only [List.cons_append, List.nil_append, mark?_cons, hday.read?,
        Option.bind_some] at hparts
      cases hseparator with
      | none =>
        have hseparator := Rfc3339.separator?_eq_none hhead
        simp only [List.nil_append, hseparator, Option.bind_none, reduceCtorEq] at hparts
      | some hseparator =>
        simp only [List.nil_append, hseparator.read?, Option.bind_some] at hparts
        cases hclock with
        | none =>
          have hhour : field? 2 0 23 [] = none := rfl
          simp only [hhour, Option.bind_none, reduceCtorEq] at hparts
        | some hclock =>
          cases hclock with
          | parts hhour hminute hseconds hzone =>
            have hmark := head?_of_writesZone hzone
            simp only [List.nil_append, hhour.read?, mark?_cons, hminute.read?,
              Option.bind_some] at hparts
            cases hseconds with
            | none =>
              have hcolon := mark?_eq_none (c := ':') fun c hc => by
                rcases hmark c hc with rfl | rfl | rfl <;> decide
              simp only [List.nil_append, hcolon, Option.bind_none, reduceCtorEq] at hparts
            | some hseconds =>
              cases hseconds with
              | parts hsecond hfraction =>
                have hfraction := readFraction?_of_writes hfraction fun c hc => by
                  rcases hmark c hc with rfl | rfl | rfl <;> decide
                simp only [List.cons_append, List.nil_append, List.append_assoc, mark?_cons,
                  hsecond.read?, hfraction, Option.bind_some] at hparts
                obtain ⟨zone, hread, hparts⟩ := Option.bind_eq_some_iff.mp hparts
                cases hparts
                rw [Rfc3339.eq_of_zone? hzone hread]
                exact hmillis

end Complete

/-! ## Literals -/

/-- **A text with a year in front** is a date or no literal. -/
theorem readLiteral_of_hasYear {text : Text} (h : hasYear text = true) :
    readLiteral text = ((Rule.readDateTime? text).map .dateTime).getD (.string text) := by
  obtain ⟨year, rest, htext, hne, hdigits⟩ := hasYear_iff.mp h
  have hslash : text.head? ≠ some '/' := by
    obtain ⟨c, year, rfl⟩ := List.exists_cons_of_ne_nil hne
    subst htext
    rintro ⟨⟩
    exact absurd (hdigits '/' List.mem_cons_self) (by decide)
  have hkind : literalKind text = .date := by simp [literalKind, hslash, h]
  have hother (rule : Rule) (hrule : rule.kind ≠ .date) : rule.read? text = none := by
    cases hread : rule.read? text with
    | none => rfl
    | some v => exact absurd ((literalKind_of_read? hread).symm.trans hkind) hrule
  have hdate : Rule.all.findSome? (·.read? text) = Rule.dateTime.read? text := by
    simp only [Rule.all, List.findSome?_cons, List.findSome?_nil, hother .integer (by decide),
      hother .float (by decide), hother .wordList (by decide), hother .pattern (by decide),
      hother .word (by decide)]
    cases Rule.dateTime.read? text <;> rfl
  rw [readLiteral, readBy, hdate, Rule.read?]

section Literal

variable {text : Text} {millis : Int}

theorem readLiteral_eq_dateTime_iff_readDateTime? :
    readLiteral text = .dateTime millis ↔ Rule.readDateTime? text = some millis :=
  readLiteral_eq_make_iff .dateTime (fun _ _ => Value.dateTime.inj) rfl rfl (by decide)

theorem Stamp.Writes.readDateTime?_eq {s : Stamp} (h : s.Writes text) :
    Rule.readDateTime? text = s.millis? := by
  rw [Rule.readDateTime?, h.read?, Option.bind_some]
  cases hmillis : Rfc3339.millis? text with
  | none => rfl
  | some millis => exact (h.millis?_of_rfc3339 hmillis).symm

/-- **A literal is a date** just if it is a stamp with an instant, and it is at that instant. -/
theorem Stamp.Writes.readLiteral_eq_dateTime_iff {s : Stamp} (h : s.Writes text) :
    readLiteral text = .dateTime millis ↔ s.IsAt millis := by
  rw [readLiteral_eq_dateTime_iff_readDateTime?, h.readDateTime?_eq, h.millis?_eq_some_iff]

theorem exists_writes_of_readLiteral (h : readLiteral text = .dateTime millis) :
    ∃ s : Stamp, s.Writes text ∧ s.IsAt millis := by
  obtain ⟨s, hs, -⟩ :=
    Option.bind_eq_some_iff.mp (readLiteral_eq_dateTime_iff_readDateTime?.mp h)
  have hwrites := Stamp.read?_eq_some_iff.mp hs
  exact ⟨s, hwrites, hwrites.readLiteral_eq_dateTime_iff.mp h⟩

end Literal

/-- **Dates among literals.** A literal is a date just if it is a stamp that has an instant, and the
date is that instant. Complete date-times are read to the same instant as stamps. -/
theorem readLiteral_eq_dateTime (text : Text) :
    ((∃ millis, readLiteral text = .dateTime millis) ↔ ∃ s : Stamp, s.Writes text ∧ s.IsPossible) ∧
      ∀ s : Stamp, s.Writes text → ∀ millis,
        (readLiteral text = .dateTime millis ↔ s.IsAt millis) ∧
          (Rfc3339.millis? text = some millis → s.IsAt millis) ∧
            (s.millis? = some millis ↔ s.IsAt millis) := by
  refine ⟨⟨?_, ?_⟩, fun s hs millis => ⟨hs.readLiteral_eq_dateTime_iff, fun h => ?_,
    hs.millis?_eq_some_iff⟩⟩
  · rintro ⟨millis, h⟩
    obtain ⟨s, hs, hat⟩ := exists_writes_of_readLiteral h
    exact ⟨s, hs, hat.possible⟩
  · rintro ⟨s, hs, hpossible⟩
    obtain ⟨millis, hat⟩ := Stamp.isPossible_iff.mp hpossible
    exact ⟨millis, hs.readLiteral_eq_dateTime_iff.mpr hat⟩
  · exact hs.millis?_eq_some_iff.mp (hs.millis?_of_rfc3339 h)

/-- The last millisecond of 1969, by a clock that is a minute ahead. -/
theorem readLiteral_eq_dateTime_eve :
    Stamp.Writes ⟨1969, 12, some 31, some 'T', some ⟨23, 59, some ⟨59, some "9999".toList⟩,
        some (.offset false 0 1)⟩⟩ "1969-12-31T23:59:59.9999+00:01".toList ∧
      Rfc3339.millis? "1969-12-31T23:59:59.9999+00:01".toList = some (-60001) ∧
        Stamp.IsAt ⟨1969, 12, some 31, some 'T', some ⟨23, 59, some ⟨59, some "9999".toList⟩,
            some (.offset false 0 1)⟩⟩ (-60001) ∧
          readLiteral "1969-12-31T23:59:59.9999+00:01".toList = .dateTime (-60001) := by
  have hwrites : Stamp.Writes ⟨1969, 12, some 31, some 'T', some ⟨23, 59, some ⟨59, some "9999".toList⟩,
      some (.offset false 0 1)⟩⟩ "1969-12-31T23:59:59.9999+00:01".toList :=
    Stamp.read?_eq_some_iff.mp rfl
  have hmillis : Rfc3339.millis? "1969-12-31T23:59:59.9999+00:01".toList = some (-60001) := by
    decide +kernel
  obtain ⟨hliteral, hcomplete, -⟩ := (readLiteral_eq_dateTime _).2 _ hwrites (-60001)
  exact ⟨hwrites, hmillis, hcomplete hmillis, hliteral.mpr (hcomplete hmillis)⟩

end DocQuery
