import DocQuery.Text.Utf8

/-!
# Reading UTF-8

* **`decode_encode`**: a text is read back from its bytes.
* **`decode_append`**: bytes are read independently of each other before and from a byte of ASCII.
-/

namespace DocQuery.Utf8

/-! ## Characters of several bytes -/

theorem toNat_ofNat {n : Nat} (h : n < 256) : (UInt8.ofNat n).toNat = n := by
  rw [UInt8.toNat_ofNat']
  exact Nat.mod_eq_of_lt h

theorem toNat_continuation (n : Nat) : (continuation n).toNat = 0x80 + n % 64 :=
  toNat_ofNat (by omega)

theorem start_two {k : Nat} (h : 2 ≤ k) (h' : k < 32) :
    start (0xC0 + k) = .inr ⟨0, k, 0x80, 0xBF⟩ := by
  have hbits : 0xC0 + k - 0xC0 = k := by omega
  rw [start, if_neg (by omega), if_neg (by omega), if_pos (by omega), hbits]

/-- The first of three bytes bounds the second one: no overlong form and no surrogate goes on. -/
theorem start_three : ∀ k < 16, start (0xE0 + k) =
    .inr ⟨1, k, if k = 0 then 0xA0 else 0x80, if k = 0xD then 0x9F else 0xBF⟩ := by
  decide

/-- The first of four bytes bounds the second one: no overlong form goes on, and nothing beyond the
last code point. -/
theorem start_four : ∀ k < 5, start (0xF0 + k) =
    .inr ⟨2, k, if k = 0 then 0x90 else 0x80, if k = 4 then 0x8F else 0xBF⟩ := by
  decide

section Continuation

variable {n low high : Nat} (hlow : low ≤ 0x80 + n % 64) (hhigh : 0x80 + n % 64 ≤ high)

include hlow hhigh

theorem decodeFrom_last (bs : List UInt8) :
    decodeFrom (some ⟨0, n / 64, low, high⟩) (continuation n :: bs) =
      Char.ofNat n :: decodeFrom none bs := by
  have hbits : 64 * (n / 64) + n % 64 = n := Nat.div_add_mod n 64
  have hstep : Pending.step ⟨0, n / 64, low, high⟩ (0x80 + n % 64) = some (.inl (Char.ofNat n)) := by
    simp [Pending.step, hlow, hhigh, hbits]
  rw [decodeFrom, toNat_continuation, hstep]

theorem decodeFrom_next (later : Nat) (bs : List UInt8) :
    decodeFrom (some ⟨later + 1, n / 64, low, high⟩) (continuation n :: bs) =
      decodeFrom (some ⟨later, n, 0x80, 0xBF⟩) bs := by
  have hbits : 64 * (n / 64) + n % 64 = n := Nat.div_add_mod n 64
  have hstep : Pending.step ⟨later + 1, n / 64, low, high⟩ (0x80 + n % 64) =
      some (.inr ⟨later, n, 0x80, 0xBF⟩) := by
    simp [Pending.step, hlow, hhigh, hbits]
  rw [decodeFrom, toNat_continuation, hstep]

end Continuation

theorem decodeFrom_start {n : Nat} {p : Pending} (hn : n < 256) (h : start n = .inr p)
    (bs : List UInt8) : decodeFrom none (UInt8.ofNat n :: bs) = decodeFrom (some p) bs := by
  rw [decodeFrom, toNat_ofNat hn, h]

/-! ## Reading back -/

/-- **A character is read back from its bytes.** -/
theorem decodeFrom_encodeChar (c : Char) (bs : List UInt8) :
    decodeFrom none (encodeChar c ++ bs) = c :: decodeFrom none bs := by
  have hvalid : c.toNat < 0xD800 ∨ 0xDFFF < c.toNat ∧ c.toNat < 0x110000 := c.valid
  have hc : Char.ofNat c.toNat = c := Char.ofNat_toNat c
  unfold encodeChar encodePoint
  generalize c.toNat = n at hvalid hc
  split
  · rename_i hone
    have hstart : start n = .inl c := by rw [start, if_pos hone, hc]
    rw [List.singleton_append, decodeFrom, toNat_ofNat (by omega), hstart]
  · split
    · have hstart : start (0xC0 + n / 64) = .inr ⟨0, n / 64, 0x80, 0xBF⟩ :=
        start_two (by omega) (by omega)
      change decodeFrom none (_ :: continuation n :: bs) = _
      rw [decodeFrom_start (by omega) hstart, decodeFrom_last (by omega) (by omega), hc]
    · split
      · have hstart := start_three (n / 4096) (by omega)
        have hsixty : n / 4096 = n / 64 / 64 := by omega
        change decodeFrom none (_ :: continuation (n / 64) :: continuation n :: bs) = _
        rw [decodeFrom_start (by omega) hstart, hsixty, decodeFrom_next, decodeFrom_last, hc]
        all_goals grind
      · have hstart := start_four (n / 262144) (by omega)
        have hsixty : n / 262144 = n / 4096 / 64 := by omega
        have hsixty' : n / 4096 = n / 64 / 64 := by omega
        change decodeFrom none
          (_ :: continuation (n / 4096) :: continuation (n / 64) :: continuation n :: bs) = _
        rw [decodeFrom_start (by omega) hstart, hsixty, decodeFrom_next, hsixty', decodeFrom_next,
          decodeFrom_last, hc]
        all_goals grind

/-- **A text is read back from its bytes.** -/
theorem decode_encode (text : Text) : decode (encode text) = text := by
  unfold decode encode
  induction text with
  | nil => rfl
  | cons c text ih => rw [List.flatMap_cons, decodeFrom_encodeChar, ih]

/-! ## Bytes of ASCII -/

theorem low_of_start {b : Nat} {p : Pending} (h : start b = .inr p) : 0x80 ≤ p.low := by
  unfold start at h
  repeat' split at h
  all_goals cases h
  all_goals exact of_decide_eq_true rfl

theorem low_of_step {p q : Pending} {b : Nat} (h : p.step b = some (.inr q)) : 0x80 ≤ q.low := by
  unfold Pending.step at h
  simp only at h
  repeat' split at h
  all_goals cases h
  all_goals exact of_decide_eq_true rfl

theorem decodeFrom_none (b : UInt8) (bs : List UInt8) :
    decodeFrom none (b :: bs) = match start b.toNat with
      | .inl c => c :: decodeFrom none bs
      | .inr p => decodeFrom (some p) bs := rfl

/-- A byte that does not go on with a character is read on its own. -/
theorem decodeFrom_some (p : Pending) (b : UInt8) (bs : List UInt8) :
    decodeFrom (some p) (b :: bs) = match p.step b.toNat with
      | some (.inl c) => c :: decodeFrom none bs
      | some (.inr q) => decodeFrom (some q) bs
      | none => replacement :: decodeFrom none (b :: bs) := by
  conv => lhs; rw [decodeFrom]
  rcases p.step b.toNat with _ | c | q
  · exact congrArg (replacement :: ·) (decodeFrom_none b bs).symm
  · rfl
  · rfl

/-- **A byte of ASCII stands for itself**, whatever comes before it. -/
theorem decodeFrom_append (bytes : List UInt8) {b : UInt8} (hb : b.toNat < 0x80)
    (bs : List UInt8) {pending : Option Pending} (hlow : ∀ p, pending = some p → 0x80 ≤ p.low) :
    decodeFrom pending (bytes ++ b :: bs) =
      decodeFrom pending bytes ++ decodeFrom none (b :: bs) := by
  induction bytes generalizing pending with
  | nil =>
    cases pending with
    | none => rfl
    | some p =>
      -- the byte is below all that can go on with the character
      have hp : 0x80 ≤ p.low := hlow p rfl
      have hstep : p.step b.toNat = none := by
        rw [Pending.step, if_neg (by simp; omega)]
      rw [List.nil_append, decodeFrom_some, hstep]
      rfl
  | cons x bytes ih =>
    have hfirst : decodeFrom none (x :: (bytes ++ b :: bs)) =
        decodeFrom none (x :: bytes) ++ decodeFrom none (b :: bs) := by
      rw [decodeFrom_none x (bytes ++ b :: bs), decodeFrom_none x bytes]
      cases hx : start x.toNat with
      | inl c => exact congrArg (c :: ·) (ih (by simp))
      | inr q => exact ih fun _ h => Option.some.inj h ▸ low_of_start hx
    rw [List.cons_append]
    cases pending with
    | none => exact hfirst
    | some p =>
      rw [decodeFrom_some p x (bytes ++ b :: bs), decodeFrom_some p x bytes]
      rcases hx : p.step x.toNat with _ | c | q
      · exact congrArg (replacement :: ·) hfirst
      · exact congrArg (c :: ·) (ih (by simp))
      · exact ih fun _ h => Option.some.inj h ▸ low_of_step hx

theorem decode_append (bytes : List UInt8) {b : UInt8} (hb : b.toNat < 0x80) (bs : List UInt8) :
    decode (bytes ++ b :: bs) = decode bytes ++ decode (b :: bs) :=
  decodeFrom_append bytes hb bs (by simp)

end DocQuery.Utf8
