import DocQuery.Proofs.Calendar.Instant

/-!
# Dates written again

* `Rfc3339.render`: an instant as a complete date-time of universal time.
* `Stamp.ofMillis`, **`Stamp.writes_render`**, `Stamp.isAt_ofMillis`: the stamp that it is.
* **`readLiteral_render`**, `Stamp.Writes.readLiteral_render_of_utc`: where a date that is written in
  that way is read again.
-/

namespace DocQuery

/-! ## Rendering -/

/-- The fraction of a second with some milliseconds, none if there are no milliseconds. -/
def fractionOfMillis (millis : Nat) : Option Text := if millis = 0 then none else some (padded 3 millis)

/-- The time of day in universal time, some milliseconds after midnight. -/
def Clock.ofMillis (time : Nat) : Clock :=
  ⟨time / 3600000, time / 60000 % 60, some ⟨time / 1000 % 60, fractionOfMillis (time % 1000)⟩,
    some (.offset false 0 0)⟩

/-- The date at an instant. -/
def dateAt (millis : Int) : Date := Date.ofDayNumber (millis / 86400000)

/-- The stamp of an instant in universal time. -/
def Stamp.ofMillis (millis : Int) : Stamp :=
  let date := dateAt millis
  ⟨date.year, date.month, some date.day, some 'T', some (.ofMillis (millis % 86400000).toNat)⟩

/-- The text of a time of day in universal time, some milliseconds after midnight. -/
def Clock.render (time : Nat) : Text :=
  padded 2 (time / 3600000) ++ ':' :: (padded 2 (time / 60000 % 60) ++
    ':' :: (padded 2 (time / 1000 % 60) ++
      (((fractionOfMillis (time % 1000)).map ('.' :: ·)).getD [] ++ "+00:00".toList)))

/-- An instant in universal time as a complete date-time, with milliseconds unless there are none. -/
def Rfc3339.render (millis : Int) : Text :=
  let date := dateAt millis
  padded 4 date.year ++ '-' :: (padded 2 date.month ++ '-' :: (padded 2 date.day ++
    'T' :: Clock.render (millis % 86400000).toNat))

/-! ## What is rendered -/

theorem isField_padded {width low high n : Nat} (hwidth : 0 < width) (hlow : low ≤ n)
    (hhigh : n ≤ high) (h : high < powerOfTen width) : IsField width low high n (padded width n) :=
  ⟨length_padded hwidth (hhigh.trans_lt h), isDigits_padded width n, digitsValue_padded width n,
    hlow, hhigh⟩

theorem writes_fractionOfMillis {millis : Nat} (h : millis ≤ 999) :
    WritesOption ['.'] IsFraction (fractionOfMillis millis)
      (((fractionOfMillis millis).map ('.' :: ·)).getD []) := by
  unfold fractionOfMillis
  split_ifs with hzero
  · exact .none
  · have hfield : IsField 3 0 999 millis (padded 3 millis) :=
      isField_padded (by decide) (Nat.zero_le _) h (by decide)
    obtain ⟨c, digits, heq, -⟩ := hfield.exists_cons
    exact .some ⟨rfl, by simp [heq], hfield.digits⟩

theorem Clock.writes_render {time : Nat} (h : time < 86400000) :
    (Clock.ofMillis time).Writes (Clock.render time) := by
  have hfield {high n : Nat} (hhigh : n ≤ high) (hwidth : high < powerOfTen 2) :
      IsField 2 0 high n (padded 2 n) := isField_padded (by decide) (Nat.zero_le _) hhigh hwidth
  have hhour : IsField 2 0 23 (time / 3600000) _ := hfield (by omega) (by decide)
  have hminute : IsField 2 0 59 (time / 60000 % 60) _ := hfield (by omega) (by decide)
  have hsecond : IsField 2 0 59 (time / 1000 % 60) _ := hfield (by omega) (by decide)
  have hfraction := writes_fractionOfMillis (show time % 1000 ≤ 999 by omega)
  have hzero : IsField 2 0 99 0 "00".toList := hfield (n := 0) (by decide) (by decide)
  have hzone : Zone.Writes (.offset false 0 0) "+00:00".toList := .offset hzero hzero
  have hwrites := Clock.Writes.parts hhour hminute (.some (.parts hsecond hfraction)) (.some hzone)
  simpa [Clock.ofMillis, Clock.render] using hwrites

section Render

variable {millis : Int}

/-- **A rendered instant is a stamp** if its year can be written. -/
theorem Stamp.writes_render (hvalid : (dateAt millis).IsValid) (hlow : 1000 ≤ (dateAt millis).year)
    (hhigh : (dateAt millis).year ≤ 2999) : (Stamp.ofMillis millis).Writes (Rfc3339.render millis) := by
  obtain ⟨hmonth, hmonths, hday, hdays⟩ := hvalid
  have hclock : Clock.Writes _ (Clock.render (millis % 86400000).toNat) :=
    Clock.writes_render (by omega)
  have hwrites := Stamp.Writes.parts (isField_padded (by decide) hlow hhigh (by decide))
    (isField_padded (by decide) hmonth hmonths (by decide))
    (.some (isField_padded (by decide) hday (hdays.trans (monthLength_le _ _)) (by decide)))
    (.some ⟨rfl, .inl rfl⟩) (.some hclock)
  simpa [Stamp.ofMillis, Rfc3339.render] using hwrites

theorem Clock.millisOfDay_ofMillis (time : Nat) : (Clock.ofMillis time).millisOfDay = time := by
  have hfraction : ((fractionOfMillis (time % 1000)).map millisOfFraction).getD 0 = time % 1000 := by
    unfold fractionOfMillis
    split_ifs with hzero
    · exact hzero.symm
    · have hlength : (padded 3 (time % 1000)).length = 3 :=
        length_padded (by decide) (Nat.mod_lt _ (by decide))
      rw [Option.map_some, Option.getD_some, millisOfFraction, digitsValue_padded, hlength]
      exact Nat.mul_div_cancel _ (by decide)
  simp only [Clock.ofMillis, Clock.millisOfDay, Seconds.millis, Option.map_some, Option.getD_some,
    hfraction]
  omega

/-- **An instant is that of its stamp.** -/
theorem Stamp.isAt_ofMillis (hvalid : (dateAt millis).IsValid)
    (hnumber : (dateAt millis).dayNumber = millis / 86400000) : (Stamp.ofMillis millis).IsAt millis := by
  have hday : Date.AreDaysApart (millis / 86400000) epoch (Stamp.ofMillis millis).date :=
    (areDaysApart_epoch_iff hvalid).mpr hnumber
  have hzone : (Stamp.ofMillis millis).zone.minutes = 0 := by rfl
  have htime : (Stamp.ofMillis millis).millisOfDay = (millis % 86400000).toNat :=
    Clock.millisOfDay_ofMillis _
  refine ⟨⟨hvalid, by rw [hzone]; decide⟩, _, hday, ?_⟩
  rw [hzone, htime]
  omega

end Render

/-! ## Reading again -/

section Reading

variable {s : Stamp} {text : Text} {millis : Int}

/-- An instant is at most a day away from the date that is written. -/
theorem Stamp.Writes.dayNumber_le (h : s.Writes text) (hat : s.IsAt millis) :
    s.date.dayNumber ≤ millis / 86400000 + 1 ∧ millis / 86400000 ≤ s.date.dayNumber + 1 := by
  obtain ⟨⟨hvalid, hzone⟩, days, hdays, rfl⟩ := hat
  rw [areDaysApart_epoch_iff hvalid] at hdays
  have htime := h.millisOfDay_lt
  omega

/-- The date at an instant that is written is one of the calendar, in the next year at the latest. -/
theorem Stamp.Writes.dateAt_spec (h : s.Writes text) (hat : s.IsAt millis) :
    (dateAt millis).IsValid ∧ (dateAt millis).dayNumber = millis / 86400000 ∧
      (dateAt millis).year ≤ s.year + 1 := by
  obtain ⟨hbefore, hafter⟩ := h.dayNumber_le hat
  have hfirst : -(Date.daysBeforeYear 1970 : Int) ≤ millis / 86400000 := by
    have hmono : Date.daysBeforeYear 1000 ≤ Date.daysBeforeYear s.date.year :=
      Date.daysBeforeYear_mono h.year_bounds.1
    have hthousand : 2 ≤ Date.daysBeforeYear 1000 := by decide
    rw [Date.dayNumber_eq] at hbefore
    omega
  obtain ⟨hvalid, hnumber⟩ := Date.ofDayNumber_spec hfirst
  rw [← hnumber] at hafter
  exact ⟨hvalid, hnumber, Date.year_le_of_dayNumber_le hat.possible.1 hvalid hafter⟩

theorem hasYear_render (millis : Int) : hasYear (Rfc3339.render millis) = true := by
  refine hasYear_iff.mpr ⟨_, _, rfl, ?_, isDigits_padded _ _⟩
  intro hnil
  have hlength := congrArg List.length hnil
  rw [padded, List.length_leftpad] at hlength
  exact absurd hlength (by simp)

/-- A rendered year cannot be read if it cannot be written. -/
theorem Stamp.read?_render (hyear : (dateAt millis).year ≤ 9999)
    (hout : ¬ (1000 ≤ (dateAt millis).year ∧ (dateAt millis).year ≤ 2999)) :
    Stamp.read? (Rfc3339.render millis) = none := by
  rw [Stamp.read?, Option.bind_eq_bind, Option.bind_eq_none_iff]
  rintro ⟨year, rest⟩ hread
  have hfield : IsField 4 0 9999 _ (padded 4 (dateAt millis).year) :=
    isField_padded (by decide) (Nat.zero_le _) hyear (by decide)
  obtain ⟨rfl, -⟩ := hfield.eq_of_read? hread
  obtain ⟨_, hwritten, -⟩ := field?_eq_some_iff_isField.mp hread
  exact absurd ⟨hwritten.low, hwritten.high⟩ hout

/-- **A date is rendered and read again** to the same instant if its year in universal time is one
that can be written, and stays a text otherwise. -/
theorem readLiteral_render (h : readLiteral text = .dateTime millis) :
    readLiteral (Rfc3339.render millis) =
      if 1000 ≤ (dateAt millis).year ∧ (dateAt millis).year ≤ 2999 then .dateTime millis
      else .string (Rfc3339.render millis) := by
  obtain ⟨s, hs, hat⟩ := exists_writes_of_readLiteral h
  obtain ⟨hvalid, hnumber, hnear⟩ := hs.dateAt_spec hat
  split_ifs with hyear
  · have hwrites := Stamp.writes_render hvalid hyear.1 hyear.2
    exact hwrites.readLiteral_eq_dateTime_iff.mpr (Stamp.isAt_ofMillis hvalid hnumber)
  · have hread := Stamp.read?_render (by have := hs.year_bounds; omega) hyear
    rw [readLiteral_of_hasYear (hasYear_render millis), Rule.readDateTime?, hread]
    rfl

/-- A date with a zone of two hours is rendered in universal time. -/
theorem readLiteral_render_offset :
    readLiteral "2016-01-01T10:30:00+02:00".toList = .dateTime 1451637000000 ∧
      Rfc3339.render 1451637000000 = "2016-01-01T08:30:00+00:00".toList ∧
        readLiteral "2016-01-01T08:30:00+00:00".toList = .dateTime 1451637000000 := by
  have hread : readLiteral "2016-01-01T10:30:00+02:00".toList = .dateTime 1451637000000 :=
    readLiteral_eq_dateTime_iff_readDateTime?.mpr (by decide +kernel)
  have hrender : Rfc3339.render 1451637000000 = "2016-01-01T08:30:00+00:00".toList := by
    decide +kernel
  have hyear : 1000 ≤ (dateAt 1451637000000).year ∧ (dateAt 1451637000000).year ≤ 2999 := by
    decide +kernel
  have hagain := readLiteral_render hread
  rw [if_pos hyear, hrender] at hagain
  exact ⟨hread, hrender, hagain⟩

/-- The first minute of the year 1000, by a clock that is a minute ahead, is in the year 999 in
universal time. -/
theorem readLiteral_render_ne :
    readLiteral "1000-01-01T00:00+00:01".toList = .dateTime (-30610224060000) ∧
      Rfc3339.render (-30610224060000) = "0999-12-31T23:59:00+00:00".toList ∧
        readLiteral (Rfc3339.render (-30610224060000)) ≠ .dateTime (-30610224060000) := by
  have hread : readLiteral "1000-01-01T00:00+00:01".toList = .dateTime (-30610224060000) :=
    readLiteral_eq_dateTime_iff_readDateTime?.mpr (by decide +kernel)
  have hrender : Rfc3339.render (-30610224060000) = "0999-12-31T23:59:00+00:00".toList := by
    decide +kernel
  refine ⟨hread, hrender, fun hagain => ?_⟩
  rw [hrender, readLiteral_eq_dateTime_iff_readDateTime?] at hagain
  exact absurd hagain (by decide +kernel)

/-- **A date of universal time** is always read again. -/
theorem Stamp.Writes.readLiteral_render_of_utc (h : s.Writes text) (hat : s.IsAt millis)
    (hzone : s.zone.minutes = 0) : readLiteral (Rfc3339.render millis) = .dateTime millis := by
  obtain ⟨hvalid, hnumber, -⟩ := h.dateAt_spec hat
  have hsame : dateAt millis = s.date := by
    obtain ⟨⟨hwritten, -⟩, days, hdays, heq⟩ := hat
    rw [areDaysApart_epoch_iff hwritten] at hdays
    have htime := h.millisOfDay_lt
    exact Date.eq_of_dayNumber_eq hvalid hwritten (by omega)
  have hlow : 1000 ≤ (dateAt millis).year := hsame ▸ h.year_bounds.1
  have hhigh : (dateAt millis).year ≤ 2999 := hsame ▸ h.year_bounds.2
  have hwrites := Stamp.writes_render hvalid hlow hhigh
  exact hwrites.readLiteral_eq_dateTime_iff.mpr (Stamp.isAt_ofMillis hvalid hnumber)

end Reading

end DocQuery
