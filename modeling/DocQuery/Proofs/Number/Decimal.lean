import DocQuery.Number.Decimal
import Mathlib.Data.List.TakeDrop
import Mathlib.Data.List.TakeWhile

/-!
# Numbers as they are written

* `decimal`, **`integer?_decimal`**: an integer as it is written, and read back.
* `integer?_eq_none`, **`Decimal.ofText?_eq_none`**: a text with a character that no number has.
-/

namespace DocQuery

/-! ## Integers -/

/-- An integer in decimal digits, behind a minus sign if it is negative. -/
def decimal : Int → Text
  | .ofNat n => Nat.toDigits 10 n
  | .negSucc n => '-' :: Nat.toDigits 10 (n + 1)

theorem isDigit_of_mem_toDigits {n : Nat} {c : Char} (h : c ∈ Nat.toDigits 10 n) :
    c.isDigit = true := Nat.isDigit_of_mem_toDigits (by decide) (by decide) h

theorem natural?_toDigits (n : Nat) : natural? (Nat.toDigits 10 n) = some n := by
  have hdigits : (Nat.toDigits 10 n).all Char.isDigit = true :=
    List.all_eq_true.mpr fun _ => isDigit_of_mem_toDigits
  have hne : (Nat.toDigits 10 n).isEmpty = false :=
    List.isEmpty_eq_false_iff.mpr Nat.toDigits_ne_nil
  rw [natural?, hdigits, hne, digitsValue, Nat.ofDigitChars_ten_toDigits]
  rfl

theorem splitSign_of_isDigit {c : Char} (h : c.isDigit = true) (rest : Text) :
    splitSign (c :: rest) = (false, c :: rest) := by
  unfold splitSign
  split
  · rename_i heq
    cases heq
    cases h
  · rename_i heq
    cases heq
    cases h
  · rfl

theorem splitSign_toDigits (n : Nat) :
    splitSign (Nat.toDigits 10 n) = (false, Nat.toDigits 10 n) := by
  obtain ⟨c, rest, hdigits⟩ := List.exists_cons_of_ne_nil (Nat.toDigits_ne_nil (n := n) (b := 10))
  have hc : c.isDigit = true := isDigit_of_mem_toDigits (hdigits ▸ List.mem_cons_self)
  rw [hdigits, splitSign_of_isDigit hc]

/-- **An integer is read back** from its digits. -/
theorem integer?_decimal (n : Int) : integer? (decimal n) = some n := by
  cases n with
  | ofNat n =>
    rw [decimal, integer?, splitSign_toDigits, natural?_toDigits]
    rfl
  | negSucc n =>
    rw [decimal, integer?]
    change (natural? (Nat.toDigits 10 (n + 1))).map (signed true) = _
    rw [natural?_toDigits]
    rfl

theorem toInt64?_toInt (n : Int64) : toInt64? n.toInt = some n := by
  have hle : -0x8000000000000000 ≤ n.toInt := n.le_toInt
  have hlt : n.toInt < 0x8000000000000000 := n.toInt_lt
  rw [toInt64?, if_pos ⟨hle, hlt⟩, Int64.ofInt_toInt]

/-! ## Characters that no number has

Each reader of a part of a number leaves them over. -/

section Characters

variable {c : Char} {text : Text}

theorem mem_dropWhile_isDigit (hdigit : c.isDigit = false) (h : c ∈ text) :
    c ∈ text.dropWhile Char.isDigit := by
  rw [← List.takeWhile_append_dropWhile (p := Char.isDigit) (l := text), List.mem_append] at h
  rcases h with h | h
  · rw [List.mem_takeWhile_imp h] at hdigit
    cases hdigit
  · exact h

/-- The characters of numbers that are no digits. -/
def numberMarks : Text := "+-.eE".toList

variable (hdigit : c.isDigit = false) (hmark : c ∉ numberMarks)

include hmark in
theorem mem_splitSign (h : c ∈ text) : c ∈ (splitSign text).2 := by
  unfold splitSign
  split
  · exact List.mem_of_ne_of_mem (fun heq => hmark (heq ▸ by decide)) h
  · exact List.mem_of_ne_of_mem (fun heq => hmark (heq ▸ by decide)) h
  · exact h

include hdigit in
theorem natural?_eq_none (h : c ∈ text) : natural? text = none := by
  refine if_neg fun hall => ?_
  rw [Bool.and_eq_true, List.all_eq_true] at hall
  rw [hall.2 c h] at hdigit
  cases hdigit

include hdigit hmark

theorem integer?_eq_none (h : c ∈ text) : integer? text = none := by
  rw [integer?, natural?_eq_none hdigit (mem_splitSign hmark h)]
  rfl

theorem Decimal.mem_readFraction (h : c ∈ text) : c ∈ (readFraction text).2 := by
  unfold readFraction
  split
  · rw [List.span_eq_takeWhile_dropWhile]
    exact mem_dropWhile_isDigit hdigit
      (List.mem_of_ne_of_mem (fun heq => hmark (heq ▸ by decide)) h)
  · exact h

theorem Decimal.mem_readExponent? {exponent : Option Int} {rest : Text}
    (hread : readExponent? text = some (exponent, rest)) (h : c ∈ text) : c ∈ rest := by
  unfold readExponent? at hread
  split at hread
  · exact absurd h List.not_mem_nil
  · rename_i d text
    split at hread
    · rename_i hd
      simp only [List.span_eq_takeWhile_dropWhile] at hread
      split at hread
      · cases hread
      · cases hread
        have hne : c ≠ d := by
          rintro rfl
          rw [Bool.or_eq_true, decide_eq_true_eq, decide_eq_true_eq] at hd
          rcases hd with rfl | rfl <;> exact hmark (by decide)
        exact mem_dropWhile_isDigit hdigit (mem_splitSign hmark (List.mem_of_ne_of_mem hne h))
    · cases hread
      exact h

/-- **No decimal number** has such a character. -/
theorem Decimal.ofText?_eq_none (h : c ∈ text) : ofText? text = none := by
  unfold ofText?
  split
  · rename_i d hread
    unfold read? at hread
    rw [List.span_eq_takeWhile_dropWhile] at hread
    obtain ⟨⟨exponent, rest⟩, hexponent, heq⟩ := Option.map_eq_some_iff.mp hread
    cases heq
    have hrest := mem_readExponent? hdigit hmark hexponent
      (mem_readFraction hdigit hmark (mem_dropWhile_isDigit hdigit h))
    exact absurd hrest List.not_mem_nil
  · rfl

end Characters

end DocQuery
