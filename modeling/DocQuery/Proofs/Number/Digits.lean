import DocQuery.Proofs.Number.Grammar
import Mathlib.Tactic.Tauto

/-!
# Texts of digits

* `powerOfTen_add`, **`digitsValue_append`**, `digitsValue_lt`: digits as a number.
* `padded`: a number in at least a given number of digits.
* `append_lt_append_iff`, **`digitsValue_lt_of_lt`**: texts of digits of the same length are in the
  order of their numbers.
* **`digitsValue_take`**: the first digits behind a point are a fraction cut off.
-/

namespace DocQuery

/-! ## Digits as a number -/

theorem powerOfTen_pos (n : Nat) : 0 < powerOfTen n := Nat.pow_pos (by decide)

theorem powerOfTen_le {m n : Nat} (h : m ≤ n) : powerOfTen m ≤ powerOfTen n :=
  Nat.pow_le_pow_right (by decide) h

theorem powerOfTen_add (m n : Nat) : powerOfTen (m + n) = powerOfTen m * powerOfTen n :=
  Nat.pow_add ..

theorem powerOfTen_succ (n : Nat) : powerOfTen (n + 1) = powerOfTen n * 10 := Nat.pow_succ ..

theorem digitsValue_append (digits others : Text) :
    digitsValue (digits ++ others) =
      digitsValue digits * powerOfTen others.length + digitsValue others := by
  rw [digitsValue, Nat.ofDigitChars_append, Nat.ofDigitChars_eq_ofDigitChars_zero, Nat.mul_comm]
  rfl

theorem digitsValue_cons (c : Char) (digits : Text) :
    digitsValue (c :: digits) =
      (c.toNat - '0'.toNat) * powerOfTen digits.length + digitsValue digits := by
  rw [← List.singleton_append, digitsValue_append]
  simp [digitsValue, Nat.ofDigitChars_cons]

theorem IsDigits.of_cons {c : Char} {digits : Text} (h : IsDigits (c :: digits)) :
    c.isDigit = true ∧ IsDigits digits :=
  ⟨h c List.mem_cons_self, fun d hd => h d (List.mem_cons_of_mem c hd)⟩

theorem toNat_of_isDigit {c : Char} (h : c.isDigit = true) :
    '0'.toNat ≤ c.toNat ∧ c.toNat ≤ '9'.toNat := by
  simpa [Char.isDigit, UInt32.le_iff_toNat_le] using h

theorem digitsValue_lt {digits : Text} (h : IsDigits digits) :
    digitsValue digits < powerOfTen digits.length := by
  induction digits with
  | nil => decide
  | cons c digits ih =>
    obtain ⟨hc, hdigits⟩ := h.of_cons
    have hle : c.toNat - '0'.toNat ≤ 9 := by
      have := (toNat_of_isDigit hc).2
      simp only [Char.reduceToNat] at this ⊢
      omega
    have hrest := ih hdigits
    rw [digitsValue_cons, List.length_cons, powerOfTen_add, Nat.mul_comm (powerOfTen _)]
    calc (c.toNat - '0'.toNat) * powerOfTen digits.length + digitsValue digits
        < 9 * powerOfTen digits.length + powerOfTen digits.length :=
          Nat.add_lt_add_of_le_of_lt (Nat.mul_le_mul_right _ hle) hrest
      _ = powerOfTen 1 * powerOfTen digits.length := (Nat.succ_mul 9 _).symm

/-! ## Padding -/

/-- A number in at least `width` digits, with zeros in front if it has fewer. -/
def padded (width n : Nat) : Text := (Nat.toDigits 10 n).leftpad width '0'

theorem digitsValue_padded (width n : Nat) : digitsValue (padded width n) = n := by
  rw [padded, List.leftpad, digitsValue_append]
  simp [digitsValue]

theorem isDigits_padded (width n : Nat) : IsDigits (padded width n) := by
  intro c hc
  rw [padded, List.leftpad, List.mem_append] at hc
  rcases hc with hc | hc
  · rw [List.eq_of_mem_replicate hc]
    rfl
  · exact isDigit_of_mem_toDigits hc

theorem length_padded {width n : Nat} (hwidth : 0 < width) (h : n < powerOfTen width) :
    (padded width n).length = width := by
  rw [padded, List.length_leftpad, Nat.max_eq_left]
  exact (Nat.length_toDigits_le_iff (by decide) hwidth).mpr h

/-! ## Order -/

theorem append_lt_append_iff {a b x y : Text} (h : a.length = b.length) :
    a ++ x < b ++ y ↔ a < b ∨ a = b ∧ x < y := by
  induction a generalizing b with
  | nil =>
    obtain rfl := List.length_eq_zero_iff.mp h.symm
    simp
  | cons c a ih =>
    cases b with
    | nil => cases h
    | cons d b =>
      rw [List.cons_append, List.cons_append, List.cons_lt_cons_iff, List.cons_lt_cons_iff,
        ih (Nat.succ.inj h), List.cons.injEq]
      tauto

/-- **Texts of digits of the same length are in the order of their numbers.** -/
theorem digitsValue_lt_of_lt {a b : Text} (ha : IsDigits a) (hb : IsDigits b)
    (hlength : a.length = b.length) (h : a < b) : digitsValue a < digitsValue b := by
  induction a generalizing b with
  | nil =>
    obtain rfl := List.length_eq_zero_iff.mp hlength.symm
    exact absurd h (List.lt_irrefl [])
  | cons c a ih =>
    cases b with
    | nil => cases hlength
    | cons d b =>
      have hrest : a.length = b.length := Nat.succ.inj hlength
      rw [digitsValue_cons, digitsValue_cons, hrest]
      rcases List.cons_lt_cons_iff.mp h with hcd | ⟨rfl, hab⟩
      · have hlt : c.toNat < d.toNat := UInt32.lt_iff_toNat_lt.mp hcd
        have hfirst : c.toNat - '0'.toNat + 1 ≤ d.toNat - '0'.toNat := by
          have := (toNat_of_isDigit ha.of_cons.1).1
          omega
        calc (c.toNat - '0'.toNat) * powerOfTen b.length + digitsValue a
            < (c.toNat - '0'.toNat) * powerOfTen b.length + powerOfTen b.length :=
              Nat.add_lt_add_left (hrest ▸ digitsValue_lt ha.of_cons.2) _
          _ = (c.toNat - '0'.toNat + 1) * powerOfTen b.length := (Nat.succ_mul _ _).symm
          _ ≤ (d.toNat - '0'.toNat) * powerOfTen b.length := Nat.mul_le_mul_right _ hfirst
          _ ≤ (d.toNat - '0'.toNat) * powerOfTen b.length + digitsValue b := Nat.le_add_right _ _
      · exact Nat.add_lt_add_left (ih ha.of_cons.2 hb.of_cons.2 hrest hab) _

/-! ## Fractions cut off -/

/-- **The first digits behind a point**, with zeros for those that are missing, are the fraction cut
off there. -/
theorem digitsValue_take {digits : Text} (h : IsDigits digits) (places : Nat) :
    digitsValue (digits.take places) * powerOfTen (places - (digits.take places).length) =
      digitsValue digits * powerOfTen places / powerOfTen digits.length := by
  rcases Nat.le_total digits.length places with hle | hle
  · rw [List.take_of_length_le hle]
    obtain ⟨more, rfl⟩ := Nat.exists_eq_add_of_le hle
    rw [Nat.add_sub_cancel_left, powerOfTen_add, Nat.mul_left_comm,
      Nat.mul_div_cancel_left _ (powerOfTen_pos _)]
  · obtain ⟨dropped, hdropped⟩ := Nat.exists_eq_add_of_le' hle
    have hrest : digitsValue (digits.drop places) < powerOfTen dropped := by
      have hdigits : IsDigits (digits.drop places) := fun c hc => h c (List.mem_of_mem_drop hc)
      have hlt := digitsValue_lt hdigits
      rwa [List.length_drop, hdropped, Nat.add_sub_cancel] at hlt
    have hvalue : digitsValue digits =
        digitsValue (digits.take places) * powerOfTen dropped +
          digitsValue (digits.drop places) := by
      conv_lhs => rw [← List.take_append_drop places digits, digitsValue_append]
      rw [List.length_drop, hdropped, Nat.add_sub_cancel]
    rw [List.length_take_of_le hle, Nat.sub_self, hdropped, powerOfTen_add,
      Nat.mul_div_mul_right _ _ (powerOfTen_pos _), hvalue, Nat.mul_comm _ (powerOfTen dropped),
      Nat.mul_add_div (powerOfTen_pos _), Nat.div_eq_of_lt hrest]
    exact Nat.mul_one _

end DocQuery
