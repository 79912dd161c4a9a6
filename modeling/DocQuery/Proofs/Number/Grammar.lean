import DocQuery.Proofs.Number.Decimal

/-!
# The grammar of decimal numbers

* `WritesInteger`, **`integer?_eq_some_iff`**: an integer is read just if it is written, with an
  optional sign and one or more digits.
* `toInt64?_eq_some_iff`, `toInt64?_eq_none_iff`, `exists_toInt_eq_iff`: the integers that fit a word
  of 64 bits.
* `Decimal.Writes`: the texts of a decimal number, which are digits, an optional point with digits
  behind it and an optional exponent.
* **`Decimal.read?_of_writes`**, **`Decimal.writes_of_read?`**: a number is taken from the front of
  a text just if it is written there. `EndsNumber` is asked of what stands behind it.
* `Numeral.Writes`, **`Numeral.writes_iff`**: the texts of a numeral, which are those of decimal
  numbers that end in a digit (`Numeral.Writes.exists_decimal`, `Decimal.Writes.writes_numeral`).
-/

namespace DocQuery

/-! ## Parts of numbers -/

/-- Whether a text has only digits. -/
def IsDigits (text : Text) : Prop := ∀ c ∈ text, c.isDigit = true

/-- An optional sign, and whether it is a minus sign. -/
inductive WritesSign : Bool → Text → Prop
  | none : WritesSign false []
  | plus : WritesSign false ['+']
  | minus : WritesSign true ['-']

/-- The texts of an integer: an optional sign and one or more digits. -/
inductive WritesInteger : Int → Text → Prop
  | digits {negative : Bool} {sign digits : Text} (hsign : WritesSign negative sign)
      (hne : digits ≠ []) (hdigits : IsDigits digits) :
      WritesInteger (signed negative (digitsValue digits)) (sign ++ digits)

namespace Decimal

/-- An optional point with digits behind it. -/
inductive WritesFraction : Option Text → Text → Prop
  | none : WritesFraction none []
  | point {digits : Text} (hdigits : IsDigits digits) :
      WritesFraction (some digits) ('.' :: digits)

/-- An optional exponent with its mark. -/
inductive WritesExponent : Option Int → Text → Prop
  | none : WritesExponent none []
  | mark {mark : Char} {negative : Bool} {sign digits : Text} (hmark : mark = 'e' ∨ mark = 'E')
      (hsign : WritesSign negative sign) (hne : digits ≠ []) (hdigits : IsDigits digits) :
      WritesExponent (some (signed negative (digitsValue digits))) (mark :: (sign ++ digits))

/-- The texts of a decimal number. -/
inductive Writes : Decimal → Text → Prop
  | parts {whole point power : Text} {fraction : Option Text} {exponent : Option Int}
      (hwhole : IsDigits whole) (hfraction : WritesFraction fraction point)
      (hexponent : WritesExponent exponent power) :
      Writes ⟨whole, fraction, exponent⟩ (whole ++ (point ++ power))

end Decimal

/-- The texts of a numeral: an optional sign, digits that may be missing, an optional point, one or
more digits and an optional exponent. -/
inductive Numeral.Writes : Numeral → Text → Prop
  | parts {negative : Bool} {sign whole point digits power : Text} {exponent : Option Int}
      (hsign : WritesSign negative sign) (hwhole : IsDigits whole)
      (hpoint : point = [] ∨ point = ['.']) (hne : digits ≠ []) (hdigits : IsDigits digits)
      (hexponent : Decimal.WritesExponent exponent power) :
      Writes ⟨negative, digitsValue (whole ++ digits),
          exponent.getD 0 - if point = [] then 0 else digits.length⟩
        (sign ++ (whole ++ (point ++ (digits ++ power))))

/-- No digit, sign, point or exponent stands at the front of a text, so that a number may end in
front of it. -/
def EndsNumber (rest : Text) : Prop := ∀ c ∈ rest.head?, c.isDigit = false ∧ c ∉ numberMarks

/-! ## Digits and signs -/

section Parts

variable {text rest digits sign : Text} {negative : Bool}

theorem span_isDigit (hdigits : IsDigits digits)
    (hrest : ∀ c ∈ rest.head?, c.isDigit = false) :
    (digits ++ rest).span Char.isDigit = (digits, rest) := by
  rw [List.span_eq_takeWhile_dropWhile, List.takeWhile_append_of_pos hdigits,
    List.dropWhile_append_of_pos hdigits]
  cases rest with
  | nil => simp
  | cons c rest =>
    have hc : ¬ c.isDigit = true := by simp [hrest c rfl]
    rw [List.takeWhile_cons_of_neg hc, List.dropWhile_cons_of_neg hc, List.append_nil]

theorem isDigits_takeWhile (text : Text) : IsDigits (text.takeWhile Char.isDigit) :=
  fun _ hc => List.mem_takeWhile_imp hc

theorem splitSign_append (hsign : WritesSign negative sign)
    (htext : ∀ c ∈ text.head?, c ≠ '-' ∧ c ≠ '+') : splitSign (sign ++ text) = (negative, text) := by
  cases hsign with
  | none =>
    rw [List.nil_append]
    unfold splitSign
    split
    · exact absurd rfl (htext '-' rfl).1
    · exact absurd rfl (htext '+' rfl).2
    · rfl
  | plus => rfl
  | minus => rfl

theorem splitSign_of_writes (hsign : WritesSign negative sign) (hne : digits ≠ [])
    (hdigits : IsDigits digits) :
    splitSign (sign ++ (digits ++ rest)) = (negative, digits ++ rest) := by
  obtain ⟨c, digits, rfl⟩ := List.exists_cons_of_ne_nil hne
  refine splitSign_append hsign fun d hd => ?_
  obtain rfl : c = d := Option.some.inj hd
  have hc := hdigits c List.mem_cons_self
  constructor <;> rintro rfl <;> cases hc

theorem exists_writesSign (text : Text) :
    ∃ sign, WritesSign (splitSign text).1 sign ∧ text = sign ++ (splitSign text).2 := by
  unfold splitSign
  split
  · exact ⟨_, .minus, rfl⟩
  · exact ⟨_, .plus, rfl⟩
  · exact ⟨_, .none, rfl⟩

theorem natural?_eq_some_iff {n : Nat} :
    natural? text = some n ↔ text ≠ [] ∧ IsDigits text ∧ digitsValue text = n := by
  rw [natural?, Option.ite_none_right_eq_some, Option.some.injEq, Bool.and_eq_true,
    List.all_eq_true, Bool.not_eq_true', List.isEmpty_eq_false_iff, and_assoc]
  rfl

/-- **An integer is read just if it is written.** -/
theorem integer?_eq_some_iff {n : Int} : integer? text = some n ↔ WritesInteger n text := by
  constructor
  · intro h
    obtain ⟨m, hm, rfl⟩ := Option.map_eq_some_iff.mp h
    obtain ⟨hne, hdigits, rfl⟩ := natural?_eq_some_iff.mp hm
    obtain ⟨sign, hsign, htext⟩ := exists_writesSign text
    have hwrites := WritesInteger.digits hsign hne hdigits
    rwa [← htext] at hwrites
  · rintro ⟨hsign, hne, hdigits⟩
    rename_i negative sign digits
    have hsplit : splitSign (sign ++ (digits ++ [])) = (negative, digits ++ []) :=
      splitSign_of_writes hsign hne hdigits
    rw [List.append_nil] at hsplit
    rw [integer?, hsplit, natural?_eq_some_iff.mpr ⟨hne, hdigits, rfl⟩]
    rfl

/-- The integer that a text writes is the only one. -/
theorem WritesInteger.eq {m n : Int} (hm : WritesInteger m text) (hn : WritesInteger n text) :
    m = n := by
  rw [← integer?_eq_some_iff] at hm hn
  exact Option.some.inj (hm.symm.trans hn)

/-! ## Integers that fit -/

theorem toInt64?_eq_some_iff {n : Int} {word : Int64} : toInt64? n = some word ↔ n = word.toInt := by
  constructor
  · intro h
    rw [toInt64?, Option.ite_none_right_eq_some, Option.some.injEq] at h
    obtain ⟨⟨hlow, hhigh⟩, rfl⟩ := h
    exact (Int64.toInt_ofInt_of_le hlow hhigh).symm
  · rintro rfl
    exact toInt64?_toInt word

theorem toInt64?_eq_none_iff {n : Int} :
    toInt64? n = none ↔ n < -0x8000000000000000 ∨ 0x8000000000000000 ≤ n := by
  rw [toInt64?, ite_eq_right_iff]
  simp only [reduceCtorEq, imp_false]
  omega

theorem integer?_bind_toInt64?_eq_some_iff {word : Int64} :
    (integer? text).bind toInt64? = some word ↔ WritesInteger word.toInt text := by
  simp only [Option.bind_eq_some_iff, integer?_eq_some_iff, toInt64?_eq_some_iff]
  constructor
  · rintro ⟨_, h, rfl⟩
    exact h
  · intro h
    exact ⟨_, h, rfl⟩

/-- No integer that fits is read just if every integer that is written does not fit. -/
theorem integer?_bind_toInt64?_eq_none_iff :
    (integer? text).bind toInt64? = none ↔
      ∀ n, WritesInteger n text → n < -0x8000000000000000 ∨ 0x8000000000000000 ≤ n := by
  simp only [Option.bind_eq_none_iff, integer?_eq_some_iff, toInt64?_eq_none_iff]

/-- The words are the integers that fit. -/
theorem exists_toInt_eq_iff {n : Int} :
    (∃ word : Int64, word.toInt = n) ↔ -0x8000000000000000 ≤ n ∧ n < 0x8000000000000000 := by
  constructor
  · rintro ⟨word, rfl⟩
    exact ⟨word.le_toInt, word.toInt_lt⟩
  · rintro ⟨hlow, hhigh⟩
    exact ⟨.ofInt n, Int64.toInt_ofInt_of_le hlow hhigh⟩

end Parts

/-! ## Numbers -/

namespace Decimal

variable {text rest t : Text} {d : Decimal} {fraction : Option Text} {exponent : Option Int}

/-- Neither a digit nor a point stands in front of an exponent. -/
theorem WritesExponent.head?_append (h : WritesExponent exponent t) (hrest : EndsNumber rest) :
    ∀ c ∈ (t ++ rest).head?, c.isDigit = false ∧ c ≠ '.' := by
  intro c hc
  cases h with
  | none =>
    obtain ⟨hdigit, hmark⟩ := hrest c hc
    exact ⟨hdigit, fun h => hmark (h ▸ by decide)⟩
  | mark hmark =>
    cases hc
    rcases hmark with rfl | rfl <;> decide

theorem readExponent?_of_writes (h : WritesExponent exponent t) (hrest : EndsNumber rest) :
    readExponent? (t ++ rest) = some (exponent, rest) := by
  cases h with
  | none =>
    cases rest with
    | nil => rfl
    | cons c rest =>
      obtain ⟨-, hmark⟩ := hrest c rfl
      rw [List.nil_append, readExponent?, if_neg]
      rw [Bool.or_eq_true, decide_eq_true_eq, decide_eq_true_eq]
      rintro (rfl | rfl) <;> exact hmark (by decide)
  | mark hmark hsign hne hdigits =>
    rw [List.cons_append, List.append_assoc, readExponent?, if_pos (by simpa using hmark)]
    simp only [splitSign_of_writes hsign hne hdigits,
      span_isDigit hdigits fun c hc => (hrest c hc).1]
    rw [if_neg (by simpa using hne)]

theorem readFraction_of_writes (h : WritesFraction fraction t)
    (hrest : ∀ c ∈ rest.head?, c.isDigit = false ∧ c ≠ '.') :
    readFraction (t ++ rest) = (fraction, rest) := by
  cases h with
  | none =>
    unfold readFraction
    split
    · rename_i heq
      exact absurd rfl (hrest '.' (by rw [← List.nil_append rest, heq]; rfl)).2
    · rfl
  | point hdigits =>
    rw [List.cons_append, readFraction]
    simp only [span_isDigit hdigits fun c hc => (hrest c hc).1]

/-- **A number that is written is taken**, whatever stands behind its end. -/
theorem read?_of_writes (h : d.Writes t) (hrest : EndsNumber rest) :
    read? (t ++ rest) = some (d, rest) := by
  cases h with
  | parts hwhole hfraction hexponent =>
    have hpower := hexponent.head?_append hrest
    rw [read?, List.append_assoc, List.append_assoc, span_isDigit hwhole]
    · simp only [readFraction_of_writes hfraction hpower, readExponent?_of_writes hexponent hrest]
      rfl
    · intro c hc
      cases hfraction with
      | none => exact (hpower c hc).1
      | point =>
        cases hc
        rfl

theorem exists_writesFraction (text : Text) :
    ∃ t, WritesFraction (readFraction text).1 t ∧ text = t ++ (readFraction text).2 := by
  unfold readFraction
  split
  · rename_i rest
    simp only [List.span_eq_takeWhile_dropWhile]
    refine ⟨_, .point (isDigits_takeWhile rest), ?_⟩
    rw [List.cons_append, List.takeWhile_append_dropWhile]
  · exact ⟨_, .none, rfl⟩

theorem writesExponent_of_readExponent? (h : readExponent? text = some (exponent, rest)) :
    ∃ t, WritesExponent exponent t ∧ text = t ++ rest := by
  unfold readExponent? at h
  split at h
  · cases h
    exact ⟨_, .none, rfl⟩
  · rename_i c body
    split at h
    · rename_i hmark
      simp only [List.span_eq_takeWhile_dropWhile] at h
      split at h
      · cases h
      · rename_i hne
        cases h
        obtain ⟨sign, hsign, hbody⟩ := exists_writesSign body
        refine ⟨_, .mark (by simpa using hmark) hsign (by simpa using hne)
          (isDigits_takeWhile _), ?_⟩
        rw [List.cons_append, List.append_assoc, List.takeWhile_append_dropWhile, ← hbody]
    · cases h
      exact ⟨_, .none, rfl⟩

/-- **A number that is taken was written.** -/
theorem writes_of_read? (h : read? text = some (d, rest)) :
    ∃ t, d.Writes t ∧ text = t ++ rest := by
  obtain ⟨point, hfraction, hpoint⟩ := exists_writesFraction (text.dropWhile Char.isDigit)
  simp only [read?, List.span_eq_takeWhile_dropWhile] at h
  obtain ⟨⟨exponent, rest⟩, hread, heq⟩ := Option.map_eq_some_iff.mp h
  cases heq
  obtain ⟨power, hexponent, hpower⟩ := writesExponent_of_readExponent? hread
  refine ⟨_, .parts (isDigits_takeWhile text) hfraction hexponent, ?_⟩
  rw [List.append_assoc, List.append_assoc, ← hpower, ← hpoint, List.takeWhile_append_dropWhile]

/-- **A text is a decimal number** just if it is written. -/
theorem ofText?_eq_some_iff : ofText? text = some d ↔ d.Writes text := by
  constructor
  · intro h
    unfold ofText? at h
    split at h
    · rename_i hread
      cases h
      obtain ⟨t, hwrites, rfl⟩ := writes_of_read? hread
      rwa [List.append_nil]
    · cases h
  · intro h
    have hread : read? (text ++ []) = some (d, []) := read?_of_writes h nofun
    rw [List.append_nil] at hread
    rw [ofText?, hread]

end Decimal

/-! ## Numerals -/

section Numerals

variable {negative : Bool} {sign text : Text} {d : Decimal} {n : Numeral}

/-- A decimal number that ends in a digit begins with a digit or a point. -/
theorem Decimal.Writes.splitSign_append (h : d.Writes text) (hends : d.endsInDigit = true)
    (hsign : WritesSign negative sign) : splitSign (sign ++ text) = (negative, text) := by
  refine DocQuery.splitSign_append hsign fun c hc => ?_
  cases h with
  | @parts whole _ _ _ _ hwhole hfraction =>
    cases whole with
    | cons first whole =>
      obtain rfl : first = c := Option.some.inj hc
      have hdigit := hwhole first List.mem_cons_self
      constructor <;> rintro rfl <;> cases hdigit
    | nil =>
      cases hfraction with
      | none => cases hends
      | point =>
        cases hc
        decide

/-- The point of a numeral may be missing, and then all its digits are before it. -/
theorem Numeral.Writes.exists_decimal (h : n.Writes text) :
    ∃ (sign body : Text) (d : Decimal), WritesSign n.negative sign ∧ d.Writes body ∧
      d.endsInDigit = true ∧ d.numeral n.negative = n ∧ text = sign ++ body := by
  cases h with
  | @parts negative sign whole point digits _ exponent hsign hwhole hpoint hne hdigits hexponent =>
    rcases hpoint with rfl | rfl
    · have hall : IsDigits (whole ++ digits) := List.forall_mem_append.mpr ⟨hwhole, hdigits⟩
      have hwrites := Decimal.Writes.parts hall .none hexponent
      refine ⟨sign, _, _, hsign, hwrites, ?_, ?_, ?_⟩
      · simp [Decimal.endsInDigit, hne]
      · simp [Decimal.numeral]
      · simp only [List.nil_append, List.append_assoc]
    · have hwrites := Decimal.Writes.parts hwhole (.point hdigits) hexponent
      refine ⟨sign, _, _, hsign, hwrites, ?_, ?_, rfl⟩
      · simp [Decimal.endsInDigit, hne]
      · simp [Decimal.numeral]

theorem Decimal.Writes.writes_numeral (h : d.Writes text) (hends : d.endsInDigit = true)
    (hsign : WritesSign negative sign) : (d.numeral negative).Writes (sign ++ text) := by
  cases h with
  | @parts whole _ _ _ _ hwhole hfraction hexponent =>
    cases hfraction with
    | none =>
      have hne : whole ≠ [] := by simpa [Decimal.endsInDigit] using hends
      have hwrites := Numeral.Writes.parts hsign (List.forall_mem_nil _) (.inl rfl) hne hwhole hexponent
      simpa [Decimal.numeral] using hwrites
    | @point digits hdigits =>
      have hne : digits ≠ [] := by simpa [Decimal.endsInDigit] using hends
      have hwrites := Numeral.Writes.parts hsign hwhole (.inr rfl) hne hdigits hexponent
      simpa [Decimal.numeral] using hwrites

/-- **The texts of numerals** are those of decimal numbers that end in a digit. -/
theorem Numeral.writes_iff :
    n.Writes text ↔ ∃ d : Decimal, Decimal.ofText? (splitSign text).2 = some d ∧
      d.endsInDigit = true ∧ d.numeral (splitSign text).1 = n := by
  constructor
  · intro h
    obtain ⟨sign, body, d, hsign, hbody, hends, hnumeral, rfl⟩ := h.exists_decimal
    rw [hbody.splitSign_append hends hsign]
    exact ⟨d, Decimal.ofText?_eq_some_iff.mpr hbody, hends, hnumeral⟩
  · rintro ⟨d, hd, hends, rfl⟩
    obtain ⟨sign, hsign, htext⟩ := exists_writesSign text
    have hwrites := (Decimal.ofText?_eq_some_iff.mp hd).writes_numeral hends hsign
    rwa [← htext] at hwrites

end Numerals

end DocQuery
