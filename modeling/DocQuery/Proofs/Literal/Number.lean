import DocQuery.Proofs.Literal.Kind
import DocQuery.Proofs.Number.Grammar

/-!
# Numbers among literals

Integers that fit a word of 64 bits are integers, and all other numbers are floating-point numbers.

* `readLiteral_eq_int64_iff`, `readLiteral_eq_double_iff`: the texts of either kind.
* `readLiteral_signed`: a word is read back from its digits, with or without a plus sign.
* **`readLiteral_eq_number`**: how numbers are classified.
-/

namespace DocQuery

/-! ## The rules for numbers -/

section Rules

variable {text : Text}

theorem readInteger?_eq_some_iff {word : Int64} :
    Rule.readInteger? text = some word ↔ WritesInteger word.toInt text :=
  integer?_bind_toInt64?_eq_some_iff

theorem readFloat?_eq_some_iff {x : Binary64} :
    Rule.readFloat? text = some x ↔ ∃ n : Numeral, n.Writes text ∧ Binary64.ofNumeral n = x := by
  simp only [Numeral.writes_iff, Rule.readFloat?]
  constructor
  · intro h
    split at h
    · rename_i d hd
      rw [Option.ite_none_right_eq_some, Option.some.injEq] at h
      exact ⟨_, ⟨d, hd, h.1, rfl⟩, h.2⟩
    · cases h
  · rintro ⟨n, ⟨d, hd, hends, rfl⟩, rfl⟩
    simp only [hd, hends, if_true]

/-- The digits of an integer are a numeral, too. -/
theorem WritesInteger.exists_numeral {n : Int} (h : WritesInteger n text) :
    ∃ numeral : Numeral, numeral.Writes text := by
  obtain ⟨hsign, hne, hdigits⟩ := h
  have hwrites := Numeral.Writes.parts hsign (List.forall_mem_nil _) (.inl rfl) hne hdigits .none
  exact ⟨_, by simpa using hwrites⟩

end Rules

/-! ## Literals -/

section Literals

variable {text : Text}

theorem readLiteral_eq_int64_iff {n : Int64} :
    readLiteral text = .int64 n ↔ WritesInteger n.toInt text := by
  rw [← readInteger?_eq_some_iff]
  exact readLiteral_eq_make_iff .integer (fun _ _ => Value.int64.inj) rfl rfl (by decide)

/-- **A floating-point number** is a numeral that is no integer that fits. -/
theorem readLiteral_eq_double_iff {x : Binary64} :
    readLiteral text = .double x ↔ (¬ ∃ n : Int64, WritesInteger n.toInt text) ∧
      ∃ numeral : Numeral, numeral.Writes text ∧ Binary64.ofNumeral numeral = x := by
  have hfloat : Rule.float.read? text = some (.double x) ↔ Rule.readFloat? text = some x := by
    rw [Rule.read?, ← Option.map_some, (Option.map_injective fun _ _ => Value.double.inj).eq_iff]
  rw [← readFloat?_eq_some_iff, ← hfloat]
  constructor
  · intro h
    refine ⟨?_, read?_of_readLiteral h rfl⟩
    rintro ⟨n, hn⟩
    rw [readLiteral_eq_int64_iff.mpr hn] at h
    cases h
  · rintro ⟨hinteger, h⟩
    refine readLiteral_of_read? h fun _ => ?_
    rw [Rule.read?, Option.map_eq_none_iff, Option.eq_none_iff_forall_ne_some]
    exact fun n hn => hinteger ⟨n, readInteger?_eq_some_iff.mp hn⟩

/-- **Every numeral is a number.** -/
theorem exists_number_iff :
    ((∃ n, readLiteral text = .int64 n) ∨ ∃ x, readLiteral text = .double x) ↔
      ∃ numeral : Numeral, numeral.Writes text := by
  constructor
  · rintro (⟨n, h⟩ | ⟨x, h⟩)
    · exact (readLiteral_eq_int64_iff.mp h).exists_numeral
    · obtain ⟨-, numeral, hnumeral, -⟩ := readLiteral_eq_double_iff.mp h
      exact ⟨numeral, hnumeral⟩
  · rintro ⟨numeral, hnumeral⟩
    by_cases hinteger : ∃ n : Int64, WritesInteger n.toInt text
    · obtain ⟨n, hn⟩ := hinteger
      exact .inl ⟨n, readLiteral_eq_int64_iff.mpr hn⟩
    · exact .inr ⟨_, readLiteral_eq_double_iff.mpr ⟨hinteger, numeral, hnumeral, rfl⟩⟩

/-- An integer that does not fit is a floating-point number. -/
theorem WritesInteger.exists_double {n : Int} (h : WritesInteger n text)
    (hn : n < -0x8000000000000000 ∨ 0x8000000000000000 ≤ n) :
    ∃ x, readLiteral text = .double x := by
  refine (exists_number_iff.mpr h.exists_numeral).resolve_left ?_
  rintro ⟨word, hword⟩
  have hnone := toInt64?_eq_none_iff.mpr hn
  rw [toInt64?_eq_some_iff.mpr (h.eq (readLiteral_eq_int64_iff.mp hword))] at hnone
  cases hnone

/-- **An integer is read back** from its digits behind any sign it can have. -/
theorem readLiteral_signed (n : Int64) {sign : Text} (h : WritesSign (decide (n.toInt < 0)) sign) :
    readLiteral (sign ++ Nat.toDigits 10 n.toInt.natAbs) = .int64 n := by
  have hdigits : IsDigits (Nat.toDigits 10 n.toInt.natAbs) := fun c => isDigit_of_mem_toDigits
  have hwrites := WritesInteger.digits h Nat.toDigits_ne_nil hdigits
  have hvalue : signed (decide (n.toInt < 0)) (digitsValue (Nat.toDigits 10 n.toInt.natAbs)) =
      n.toInt := by
    rw [digitsValue, Nat.ofDigitChars_ten_toDigits, signed]
    by_cases hn : n.toInt < 0
    · rw [decide_eq_true hn, if_pos rfl]
      omega
    · rw [decide_eq_false hn, if_neg Bool.false_ne_true]
      omega
  rw [hvalue] at hwrites
  exact readLiteral_eq_int64_iff.mpr hwrites

end Literals

/-- **Numbers among literals.** A text is an integer just if it has an optional sign and digits of
an integer that fits. All other numerals, integers that do not fit among them, are floating-point
numbers, and no other text is a number. -/
theorem readLiteral_eq_number (text : Text) :
    (∀ n : Int64, readLiteral text = .int64 n ↔ WritesInteger n.toInt text) ∧
      (∀ x : Binary64, readLiteral text = .double x ↔
        (¬ ∃ n : Int64, WritesInteger n.toInt text) ∧
          ∃ numeral : Numeral, numeral.Writes text ∧ Binary64.ofNumeral numeral = x) ∧
        (((∃ n, readLiteral text = .int64 n) ∨ ∃ x, readLiteral text = .double x) ↔
          ∃ numeral : Numeral, numeral.Writes text) ∧
          (∀ n : Int, WritesInteger n text → n < -0x8000000000000000 ∨ 0x8000000000000000 ≤ n →
            ∃ x, readLiteral text = .double x) ∧
            ∀ (n : Int64) (sign : Text), WritesSign (decide (n.toInt < 0)) sign →
              readLiteral (sign ++ Nat.toDigits 10 n.toInt.natAbs) = .int64 n :=
  ⟨fun _ => readLiteral_eq_int64_iff, fun _ => readLiteral_eq_double_iff, exists_number_iff,
    fun _ h hn => h.exists_double hn, fun n _ h => readLiteral_signed n h⟩

/-- Both ends of the integers of 64 bits, one of them exceeded. -/
theorem readLiteral_eq_number_ends :
    WritesInteger 0x8000000000000000 "+9223372036854775808".toList ∧
      (∃ x, readLiteral "+9223372036854775808".toList = .double x) ∧
        WritesSign (decide (Int64.minValue.toInt < 0)) ['-'] ∧
          readLiteral "-9223372036854775808".toList = .int64 Int64.minValue := by
  obtain ⟨-, -, -, hoverflow, hsigned⟩ := readLiteral_eq_number "+9223372036854775808".toList
  have hwrites : WritesInteger 0x8000000000000000 "+9223372036854775808".toList :=
    integer?_eq_some_iff.mp rfl
  have hsign : WritesSign (decide (Int64.minValue.toInt < 0)) ['-'] := .minus
  exact ⟨hwrites, hoverflow _ hwrites (by decide), hsign, hsigned Int64.minValue ['-'] hsign⟩

example : ["5.", "inf", "nan", ".", "1e"].map (fun text => readLiteral text.toList) =
    ["5.", "inf", "nan", ".", "1e"].map (fun text => .string text.toList) := rfl

end DocQuery
