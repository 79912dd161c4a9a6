import DocQuery.Proofs.Text.Utf8
import DocQuery.Text.Percent
import Mathlib.Data.List.Forall2

/-!
# Percent-encoding

* `Percent.Encodes`: a text is encoded by a part for each character, which is the character itself or
  its bytes as escapes. A percent sign has to be escaped.
* **`decode_of_encodes`**: a text is decoded from each of its encodings.
* `Percent.escape`, **`decode_escape`**: a text whose percent signs are escaped is decoded to
  itself.
* `bytes_append`: no escape goes on across a character that is no hexadecimal digit.
* **`decode_append`**: texts are decoded independently of each other before and behind a separator
  of arguments.
-/

namespace DocQuery.Percent

/-! ## Encodings -/

/-- Whether a character is the hexadecimal digit of a number, in either case. -/
def isDigitOf (n : Nat) (c : Char) : Bool :=
  c = Nat.digitChar n || c = (Nat.digitChar n).toUpper

/-- Whether a text is bytes, each as an escape. -/
def isEscapes : List UInt8 → Text → Bool
  | [], [] => true
  | b :: bs, '%' :: high :: low :: rest =>
    isDigitOf (b.toNat / 16) high && isDigitOf (b.toNat % 16) low && isEscapes bs rest
  | _, _ => false

/-- Whether a part of an encoded text stands for a character. -/
def spells (c : Char) (part : Text) : Bool :=
  (c ≠ '%' && part = [c]) || isEscapes (Utf8.encodeChar c) part

/-- Whether a text is an encoding of another one. -/
def Encodes (encoded text : Text) : Prop :=
  ∃ parts, List.Forall₂ (fun c part => spells c part) text parts ∧ encoded = parts.flatten

theorem hexDigit?_digitChar : ∀ n < 16, hexDigit? (Nat.digitChar n) = some n ∧
    hexDigit? (Nat.digitChar n).toUpper = some n := by
  decide

theorem hexDigit?_of_isDigitOf {n : Nat} {c : Char} (hn : n < 16) (h : isDigitOf n c = true) :
    hexDigit? c = some n := by
  rw [isDigitOf, Bool.or_eq_true, decide_eq_true_eq, decide_eq_true_eq] at h
  rcases h with rfl | rfl
  · exact (hexDigit?_digitChar n hn).1
  · exact (hexDigit?_digitChar n hn).2

theorem byte?_of_isDigitOf {b : UInt8} {high low : Char}
    (hhigh : isDigitOf (b.toNat / 16) high = true) (hlow : isDigitOf (b.toNat % 16) low = true) :
    byte? high low = some b := by
  have hb : b.toNat < 256 := b.toNat_lt
  have hvalue : 16 * (b.toNat / 16) + b.toNat % 16 = b.toNat := Nat.div_add_mod b.toNat 16
  rw [byte?, hexDigit?_of_isDigitOf (by omega) hhigh, hexDigit?_of_isDigitOf (by omega) hlow,
    Option.bind_some, Option.map_some, hvalue, UInt8.ofNat_toNat]

theorem bytes_cons {c : Char} (hc : c ≠ '%') (rest : Text) :
    bytes (c :: rest) = Utf8.encodeChar c ++ bytes rest := by
  rw [bytes]
  exact fun _ _ _ heq => absurd heq hc

theorem bytes_isEscapes {bs : List UInt8} {part : Text} (h : isEscapes bs part = true)
    (rest : Text) : bytes (part ++ rest) = bs ++ bytes rest := by
  fun_induction isEscapes bs part with
  | case1 => rfl
  | case2 b bs high low part ih =>
    rw [Bool.and_eq_true, Bool.and_eq_true] at h
    obtain ⟨⟨hhigh, hlow⟩, hrest⟩ := h
    change bytes ('%' :: high :: low :: (part ++ rest)) = _
    rw [bytes, byte?_of_isDigitOf hhigh hlow]
    exact congrArg (b :: ·) (ih hrest)
  | case3 => cases h

theorem bytes_spells {c : Char} {part : Text} (h : spells c part = true) (rest : Text) :
    bytes (part ++ rest) = Utf8.encodeChar c ++ bytes rest := by
  rw [spells, Bool.or_eq_true, Bool.and_eq_true, decide_eq_true_eq, decide_eq_true_eq] at h
  rcases h with ⟨hc, rfl⟩ | hescapes
  · exact bytes_cons hc rest
  · exact bytes_isEscapes hescapes rest

theorem bytes_of_encodes {encoded text : Text} (h : Encodes encoded text) :
    bytes encoded = Utf8.encode text := by
  obtain ⟨parts, hparts, rfl⟩ := h
  induction hparts with
  | nil => rfl
  | cons hspells _ ih =>
    rw [List.flatten_cons, bytes_spells hspells, ih, Utf8.encode, Utf8.encode, List.flatMap_cons]

/-- **A text is decoded from each of its encodings.** -/
theorem decode_of_encodes {encoded text : Text} (h : Encodes encoded text) :
    decode encoded = text := by
  rw [decode, bytes_of_encodes h, Utf8.decode_encode]

/-- A text with its percent signs escaped. -/
def escape (text : Text) : Text := text.flatMap fun c => if c = '%' then "%25".toList else [c]

theorem encodes_escape (text : Text) : Encodes (escape text) text := by
  refine ⟨text.map fun c => if c = '%' then "%25".toList else [c], ?_, rfl⟩
  rw [List.forall₂_map_right_iff, List.forall₂_same]
  intro c _
  by_cases hc : c = '%'
  · subst hc
    rfl
  · simp [hc, spells]

/-- **A text whose percent signs are escaped is decoded to itself.** -/
theorem decode_escape (text : Text) : decode (escape text) = text :=
  decode_of_encodes (encodes_escape text)

/-! ## Separators -/

theorem byte?_eq_none_of_high {c : Char} (hc : hexDigit? c = none) (low : Char) :
    byte? c low = none := by
  rw [byte?, hc, Option.bind_none]

theorem byte?_eq_none_of_low {c : Char} (hc : hexDigit? c = none) (high : Char) :
    byte? high c = none := by
  rw [byte?, hc]
  cases hexDigit? high <;> rfl

theorem bytes_percent {high low : Char} (h : byte? high low = none) (rest : Text) :
    bytes ('%' :: high :: low :: rest) = Utf8.encodeChar '%' ++ bytes (high :: low :: rest) := by
  rw [bytes, h]

/-- **No escape goes on across a character that is no hexadecimal digit.** -/
theorem bytes_append {c : Char} (hc : hexDigit? c = none) (text rest : Text) :
    bytes (text ++ c :: rest) = bytes text ++ bytes (c :: rest) := by
  fun_induction bytes text with
  | case1 high low text b hb ih =>
    change bytes ('%' :: high :: low :: (text ++ c :: rest)) = _
    rw [bytes, hb]
    exact congrArg (b :: ·) ih
  | case2 high low text hb ih =>
    change bytes ('%' :: high :: low :: (text ++ c :: rest)) = _
    rw [bytes_percent hb, List.append_assoc, ← ih]
    rfl
  | case3 d text hshort ih =>
    rw [List.append_assoc, ← ih, List.cons_append]
    by_cases hd : d = '%'
    · -- fewer than two characters of the text follow the sign
      subst hd
      rcases text with _ | ⟨high, _ | ⟨low, text⟩⟩
      · rcases rest with _ | ⟨low, rest⟩
        · rfl
        · exact bytes_percent (byte?_eq_none_of_high hc low) rest
      · exact bytes_percent (byte?_eq_none_of_low hc high) rest
      · exact absurd rfl (hshort high low text rfl)
    · exact bytes_cons hd _
  | case4 => rfl

/-- **Texts are decoded independently of each other** before and behind a separator. -/
theorem decode_append (text rest : Text) :
    decode (text ++ '&' :: rest) = decode text ++ '&' :: decode rest := by
  have hseparator : bytes ('&' :: rest) = 0x26 :: bytes rest := bytes_cons (by decide) rest
  rw [decode, bytes_append (by decide), hseparator, Utf8.decode_append _ (by decide)]
  rfl

end DocQuery.Percent
