import DocQuery.Proofs.Calendar.Instant

/-!
# The order of dates as texts

* `Stamp.SameLayout`: stamps with the same parts.
* `Stamp.places`: the number of digits of a fraction.
* `IsField.lt_or_eq`, `WritesOption.lt_cases`: two texts compared by their first part.
* `Seconds.Writes.millis_le_of_lt`, `Clock.Writes.millisOfDay_le_of_lt`: times of day in the order of
  their texts.
* **`Stamp.Writes.dateTime_le_of_lt`**: dates are in the order of their texts.
-/

namespace DocQuery

/-! ## Layouts -/

/-- Whether both seconds have a fraction with the same number of digits, or none. -/
def Seconds.SameLayout (s t : Seconds) : Prop :=
  Option.Rel (fun digits others => digits.length = others.length) s.fraction t.fraction

/-- Whether two times of day have the same parts and the same zone. -/
structure Clock.SameLayout (c d : Clock) : Prop where
  seconds : Option.Rel Seconds.SameLayout c.seconds d.seconds
  zone : c.zone = d.zone

/-- Whether two stamps have the same parts, the same separator and the same zone. -/
structure Stamp.SameLayout (s t : Stamp) : Prop where
  day : s.day.isSome = t.day.isSome
  separator : s.separator = t.separator
  clock : Option.Rel Clock.SameLayout s.clock t.clock

theorem Stamp.SameLayout.zone_eq {s t : Stamp} (h : s.SameLayout t) : s.zone = t.zone := by
  obtain ⟨-, -, hclock⟩ := h
  unfold Stamp.zone
  generalize s.clock = c at hclock ⊢
  generalize t.clock = d at hclock ⊢
  cases hclock with
  | none => rfl
  | some hlayout => exact congrArg (Option.getD · .utc) hlayout.zone

/-- The number of digits of a fraction, 0 if there is none. -/
def Seconds.places (s : Seconds) : Nat := (s.fraction.getD []).length

/-- The number of digits of the fraction of a time of day. -/
def Clock.places (c : Clock) : Nat := (c.seconds.map Seconds.places).getD 0

/-- The number of digits of the fraction of a stamp. -/
def Stamp.places (s : Stamp) : Nat := (s.clock.map Clock.places).getD 0

/-! ## Fields and fractions -/

section Field

variable {width low high low' high' m n : Nat} {a b x y : Text}

theorem append_lt_append_left : a ++ x < a ++ y ↔ x < y := by
  rw [append_lt_append_iff rfl]
  exact ⟨fun h => (h.resolve_left (List.lt_irrefl a)).2, fun h => .inr ⟨rfl, h⟩⟩

/-- **The first field** of two texts is in their order, or it is the same. -/
theorem IsField.lt_or_eq (ha : IsField width low high m a) (hb : IsField width low' high' n b)
    (h : a ++ x < b ++ y) : m < n ∨ m = n ∧ x < y := by
  have hlength := ha.length.trans hb.length.symm
  rcases (append_lt_append_iff hlength).mp h with hlt | ⟨rfl, hlt⟩
  · rw [← ha.value, ← hb.value]
    exact .inl (digitsValue_lt_of_lt ha.digits hb.digits hlength hlt)
  · exact .inr ⟨ha.value.symm.trans hb.value, hlt⟩

theorem isSome_eq_of_rel {α β : Type} {r : α → β → Prop} {p : Option α} {q : Option β}
    (h : Option.Rel r p q) : p.isSome = q.isSome := by
  cases h <;> rfl

/-- **A part that is written in both texts or in neither** comes before what follows it. -/
theorem WritesOption.lt_cases {α : Type} {mark : Text} {writes : α → Text → Prop} {p q : Option α}
    (ha : WritesOption mark writes p a) (hb : WritesOption mark writes q b)
    (hsame : p.isSome = q.isSome) (h : a ++ x < b ++ y) :
    p = .none ∧ q = .none ∧ x < y ∨
      ∃ u v s t, p = .some u ∧ q = .some v ∧ writes u s ∧ writes v t ∧ s ++ x < t ++ y := by
  cases ha with
  | none =>
    cases hb with
    | none => exact .inl ⟨rfl, rfl, h⟩
    | some => cases hsame
  | some ha =>
    cases hb with
    | none => cases hsame
    | some hb =>
      rw [List.append_assoc, List.append_assoc, append_lt_append_left] at h
      exact .inr ⟨_, _, _, _, rfl, rfl, ha, hb, h⟩

/-- An optional part has one text if what is written has one. -/
theorem WritesOption.unique {α : Type} {mark : Text} {writes : α → Text → Prop} {p : Option α}
    (ha : WritesOption mark writes p a) (hb : WritesOption mark writes p b)
    (h : ∀ u ∈ p, ∀ s t, writes u s → writes u t → s = t) : a = b := by
  cases ha with
  | none =>
    cases hb
    rfl
  | some ha =>
    cases hb with
    | some hb => rw [h _ rfl _ _ ha hb]

/-- A fraction is cut off to a millisecond, so that a larger one is not less, and it is larger if
nothing is cut off. -/
theorem millisOfFraction_le_of_lt (hlength : a.length = b.length)
    (h : digitsValue a < digitsValue b) :
    millisOfFraction a ≤ millisOfFraction b ∧
      (a.length ≤ 3 → millisOfFraction a < millisOfFraction b) := by
  unfold millisOfFraction
  rw [← hlength]
  refine ⟨Nat.div_le_div_right (Nat.mul_le_mul_right _ h.le), fun hplaces => ?_⟩
  have hscale : 1000 = powerOfTen (3 - a.length) * powerOfTen a.length := by
    rw [← powerOfTen_add, Nat.sub_add_cancel hplaces]
    rfl
  rw [hscale, ← Nat.mul_assoc, ← Nat.mul_assoc, Nat.mul_div_cancel _ (powerOfTen_pos _),
    Nat.mul_div_cancel _ (powerOfTen_pos _)]
  exact Nat.mul_lt_mul_of_pos_right h (powerOfTen_pos _)

end Field

/-! ## Times of day -/

section Time

variable {a b z : Text}

theorem fractionMillis_le_of_lt {fraction other : Option Text}
    (hf : WritesOption ['.'] IsFraction fraction a) (hg : WritesOption ['.'] IsFraction other b)
    (hlayout : Option.Rel (fun digits others => digits.length = others.length) fraction other)
    (h : a ++ z < b ++ z) :
    (fraction.map millisOfFraction).getD 0 ≤ (other.map millisOfFraction).getD 0 ∧
      ((fraction.getD []).length ≤ 3 →
        (fraction.map millisOfFraction).getD 0 < (other.map millisOfFraction).getD 0) := by
  rcases hf.lt_cases hg (isSome_eq_of_rel hlayout) h with
    ⟨-, -, h⟩ | ⟨digits, others, s, t, rfl, rfl, hs, ht, h⟩
  · exact absurd h (List.lt_irrefl z)
  · cases hlayout with
    | some hlength =>
      obtain ⟨rfl, -, hdigits⟩ := hs
      obtain ⟨rfl, -, hothers⟩ := ht
      rcases (append_lt_append_iff hlength).mp h with hlt | ⟨-, h⟩
      · exact millisOfFraction_le_of_lt hlength (digitsValue_lt_of_lt hdigits hothers hlength hlt)
      · exact absurd h (List.lt_irrefl z)

theorem Seconds.Writes.millis_le_of_lt {s t : Seconds} (hs : s.Writes a) (ht : t.Writes b)
    (hlayout : s.SameLayout t) (h : a ++ z < b ++ z) :
    s.millis ≤ t.millis ∧ (s.places ≤ 3 → s.millis < t.millis) := by
  cases hs with
  | parts hs hf =>
  cases ht with
  | parts ht hg =>
    rw [List.append_assoc, List.append_assoc] at h
    simp only [Seconds.millis, Seconds.places]
    rcases hs.lt_or_eq ht h with hlt | ⟨rfl, h⟩
    · have hless := fractionMillis_lt hf
      omega
    · have hle := fractionMillis_le_of_lt hf hg hlayout h
      omega

theorem secondsMillis_le_of_lt {seconds others : Option Seconds}
    (hs : WritesOption [':'] Seconds.Writes seconds a)
    (ht : WritesOption [':'] Seconds.Writes others b)
    (hlayout : Option.Rel Seconds.SameLayout seconds others) (h : a ++ z < b ++ z) :
    (seconds.map Seconds.millis).getD 0 ≤ (others.map Seconds.millis).getD 0 ∧
      ((seconds.map Seconds.places).getD 0 ≤ 3 →
        (seconds.map Seconds.millis).getD 0 < (others.map Seconds.millis).getD 0) := by
  rcases hs.lt_cases ht (isSome_eq_of_rel hlayout) h with
    ⟨-, -, h⟩ | ⟨second, other, s, t, rfl, rfl, hs, ht, h⟩
  · exact absurd h (List.lt_irrefl z)
  · cases hlayout with
    | some hlayout => exact hs.millis_le_of_lt ht hlayout h

theorem writesZone_unique {zone : Option Zone} (ha : WritesOption [] Zone.Writes zone a)
    (hb : WritesOption [] Zone.Writes zone b) (hzone : zone.getD .utc = .utc) : a = b := by
  refine ha.unique hb fun u hu s t hs ht => ?_
  rw [hu] at hzone
  obtain rfl : u = .utc := hzone
  cases hs
  cases ht
  rfl

/-- **Times of day** in universal time are in the order of their texts. -/
theorem Clock.Writes.millisOfDay_le_of_lt {c d : Clock} (hc : c.Writes a) (hd : d.Writes b)
    (hlayout : c.SameLayout d) (hzone : c.zone.getD .utc = .utc) (h : a < b) :
    c.millisOfDay ≤ d.millisOfDay ∧ (c.places ≤ 3 → c.millisOfDay < d.millisOfDay) := by
  obtain ⟨hseconds, hsame⟩ := hlayout
  cases hc with
  | parts hhour hminute hs hz =>
  cases hd with
  | parts hhour' hminute' hs' hz' =>
    obtain rfl := hsame
    obtain rfl := writesZone_unique hz hz' hzone
    have hless := secondsMillis_lt hs
    have hhigh := hminute.high
    simp only [Clock.millisOfDay, Clock.places]
    rcases hhour.lt_or_eq hhour' h with hlt | ⟨rfl, h⟩
    · omega
    · rcases hminute.lt_or_eq hminute' (append_lt_append_left (a := [':']).mp h) with hlt | ⟨rfl, h⟩
      · omega
      · have hle := secondsMillis_le_of_lt hs hs' hseconds h
        omega

end Time

/-! ## Dates -/

section Dates

variable {a b : Text} {s t : Stamp}

/-- Days that are written are in their order, and missing ones are the same. -/
theorem day_lt_or_eq {day other : Option Nat} {x y : Text}
    (hs : WritesOption ['-'] (IsField 2 1 31) day a) (ht : WritesOption ['-'] (IsField 2 1 31) other b)
    (hsame : day.isSome = other.isSome) (h : a ++ x < b ++ y) :
    day.getD 1 < other.getD 1 ∨ day.getD 1 = other.getD 1 ∧ x < y := by
  rcases hs.lt_cases ht hsame h with ⟨rfl, rfl, h⟩ | ⟨d, e, s, t, rfl, rfl, hs, ht, h⟩
  · exact .inr ⟨rfl, h⟩
  · exact hs.lt_or_eq ht h

/-- **The texts of stamps** of the same layout are in the order of the dates, and of the times on the
same date. -/
theorem Stamp.Writes.before_or_eq (hs : s.Writes a) (ht : t.Writes b) (hlayout : s.SameLayout t)
    (hzone : s.zone = .utc) (h : a < b) :
    s.date.Before t.date ∨ s.date = t.date ∧ s.millisOfDay ≤ t.millisOfDay ∧
      (s.places ≤ 3 → s.millisOfDay < t.millisOfDay) := by
  obtain ⟨hdays, hsame, hclocks⟩ := hlayout
  cases hs with
  | parts hyear hmonth hday hseparator hclock =>
  cases ht with
  | parts hyear' hmonth' hday' hseparator' hclock' =>
    obtain rfl := hsame
    obtain rfl := hseparator.unique hseparator' fun _ _ _ _ hs ht => hs.1.trans ht.1.symm
    rcases hyear.lt_or_eq hyear' h with hlt | ⟨rfl, h⟩
    · exact .inl (.inl hlt)
    rcases hmonth.lt_or_eq hmonth' (append_lt_append_left (a := ['-']).mp h) with hlt | ⟨rfl, h⟩
    · exact .inl (.inr ⟨rfl, .inl hlt⟩)
    rcases day_lt_or_eq hday hday' hdays h with hlt | ⟨heq, h⟩
    · exact .inl (.inr ⟨rfl, .inr ⟨rfl, hlt⟩⟩)
    refine .inr ⟨congrArg (Date.mk _ _) heq, ?_⟩
    rw [append_lt_append_left] at h
    rcases hclock.lt_cases (x := []) (y := []) hclock' (isSome_eq_of_rel hclocks)
        (by rwa [List.append_nil, List.append_nil]) with
      ⟨-, -, h⟩ | ⟨c, d, s, t, rfl, rfl, hc, hd, h⟩
    · exact absurd h (List.lt_irrefl [])
    · rw [List.append_nil, List.append_nil] at h
      cases hclocks with
      | some hlayout => exact hc.millisOfDay_le_of_lt hd hlayout hzone h

/-- **Dates are in the order of their texts.** Of two texts with the same parts, without a zone or
with `Z`, the smaller one is not the later one, and it is the earlier one if no fraction is cut
off. -/
theorem Stamp.Writes.dateTime_le_of_lt {m n : Int} (hs : s.Writes a) (ht : t.Writes b)
    (hlayout : s.SameLayout t) (hzone : s.zone = .utc) (hm : readLiteral a = .dateTime m)
    (hn : readLiteral b = .dateTime n) (h : a < b) : m ≤ n ∧ (s.places ≤ 3 → m < n) := by
  obtain ⟨⟨hvalid, -⟩, days, hdays, rfl⟩ := hs.readLiteral_eq_dateTime_iff.mp hm
  obtain ⟨⟨hvalid', -⟩, days', hdays', rfl⟩ := ht.readLiteral_eq_dateTime_iff.mp hn
  rw [areDaysApart_epoch_iff hvalid] at hdays
  rw [areDaysApart_epoch_iff hvalid'] at hdays'
  rw [← hlayout.zone_eq, hzone]
  have htime := hs.millisOfDay_lt
  rcases hs.before_or_eq ht hlayout hzone h with hbefore | ⟨hdate, hle⟩
  · have hlt := Date.dayNumber_lt_of_before hvalid hvalid' hbefore
    omega
  · rw [hdate] at hdays
    omega

/-- The last millisecond of a leap day is earlier than the next day. -/
theorem dateTime_lt_after_leap_day :
    "1968-02-29T23:59:59.999Z".toList < "1968-03-01T00:00:00.000Z".toList ∧
      readLiteral "1968-02-29T23:59:59.999Z".toList = .dateTime (-57974400001) ∧
        readLiteral "1968-03-01T00:00:00.000Z".toList = .dateTime (-57974400000) ∧
          (-57974400001 : Int) < -57974400000 := by
  have hs : Stamp.Writes ⟨1968, 2, some 29, some 'T',
      some ⟨23, 59, some ⟨59, some "999".toList⟩, some .utc⟩⟩ "1968-02-29T23:59:59.999Z".toList :=
    Stamp.read?_eq_some_iff.mp rfl
  have ht : Stamp.Writes ⟨1968, 3, some 1, some 'T',
      some ⟨0, 0, some ⟨0, some "000".toList⟩, some .utc⟩⟩ "1968-03-01T00:00:00.000Z".toList :=
    Stamp.read?_eq_some_iff.mp rfl
  have hm : readLiteral "1968-02-29T23:59:59.999Z".toList = .dateTime (-57974400001) :=
    readLiteral_eq_dateTime_iff_readDateTime?.mpr (by decide +kernel)
  have hn : readLiteral "1968-03-01T00:00:00.000Z".toList = .dateTime (-57974400000) :=
    readLiteral_eq_dateTime_iff_readDateTime?.mpr (by decide +kernel)
  have hlt : "1968-02-29T23:59:59.999Z".toList < "1968-03-01T00:00:00.000Z".toList := by
    decide +kernel
  have hordered := hs.dateTime_le_of_lt ht ⟨rfl, rfl, .some ⟨.some (.some rfl), rfl⟩⟩ rfl hm hn hlt
  exact ⟨hlt, hm, hn, hordered.2 (by decide)⟩

end Dates

end DocQuery
