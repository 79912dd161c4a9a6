import DocQuery.Text.Basic

/-!
# UTF-8

* `Utf8.encode`: the bytes of a text.
* `Utf8.decode`: the text of any bytes. Each longest piece that starts a well-formed sequence and
  does not complete it becomes one replacement character, and so does each byte that starts none.

The decoder is a machine over bytes. Between two characters it has no state; inside one it knows
how many bytes are due, the bits read so far and the range of the next byte (`Utf8.Pending`). That
range alone excludes overlong forms, surrogates and values beyond the last code point.
-/

namespace DocQuery.Utf8

/-! ## Encoding -/

/-- The continuation byte with the low six bits of `n`. -/
def continuation (n : Nat) : UInt8 := UInt8.ofNat (0x80 + n % 64)

/-- The bytes of the code point `n`. -/
def encodePoint (n : Nat) : List UInt8 :=
  if n < 0x80 then [UInt8.ofNat n]
  else if n < 0x800 then [UInt8.ofNat (0xC0 + n / 64), continuation n]
  else if n < 0x10000 then
    [UInt8.ofNat (0xE0 + n / 4096), continuation (n / 64), continuation n]
  else
    [UInt8.ofNat (0xF0 + n / 262144), continuation (n / 4096), continuation (n / 64),
      continuation n]

/-- The bytes of a character. -/
def encodeChar (c : Char) : List UInt8 := encodePoint c.toNat

/-- The bytes of a text. -/
def encode (text : Text) : List UInt8 := text.flatMap encodeChar

/-! ## Decoding -/

/-- The character that stands for an ill-formed piece. -/
def replacement : Char := '\uFFFD'

/-- A character of which some bytes have been read. -/
structure Pending where
  /-- How many bytes are due after the next one. -/
  later : Nat
  /-- The bits read so far. -/
  bits : Nat
  /-- The least next byte. -/
  low : Nat
  /-- The greatest next byte. -/
  high : Nat
deriving DecidableEq, Repr

/-- What a byte does between two characters: a character of its own, or the start of one. -/
def start (b : Nat) : Char ⊕ Pending :=
  if b < 0x80 then .inl (Char.ofNat b)
  else if b < 0xC2 then .inl replacement
  else if b < 0xE0 then .inr ⟨0, b - 0xC0, 0x80, 0xBF⟩
  else if b = 0xE0 then .inr ⟨1, 0, 0xA0, 0xBF⟩
  else if b = 0xED then .inr ⟨1, 0xD, 0x80, 0x9F⟩
  else if b < 0xF0 then .inr ⟨1, b - 0xE0, 0x80, 0xBF⟩
  else if b = 0xF0 then .inr ⟨2, 0, 0x90, 0xBF⟩
  else if b < 0xF4 then .inr ⟨2, b - 0xF0, 0x80, 0xBF⟩
  else if b = 0xF4 then .inr ⟨2, 4, 0x80, 0x8F⟩
  else .inl replacement

/-- What a byte does inside a character: it completes it, goes on with it, or does not belong to
it. -/
def Pending.step (p : Pending) (b : Nat) : Option (Char ⊕ Pending) :=
  if p.low ≤ b && b ≤ p.high then
    let bits := 64 * p.bits + (b - 0x80)
    match p.later with
    | 0 => some (.inl (Char.ofNat bits))
    | later + 1 => some (.inr ⟨later, bits, 0x80, 0xBF⟩)
  else none

/-- The text of bytes, on from a character of which some bytes have been read. -/
def decodeFrom : Option Pending → List UInt8 → Text
  | none, [] => []
  | some _, [] => [replacement]
  | none, b :: bs =>
    match start b.toNat with
    | .inl c => c :: decodeFrom none bs
    | .inr p => decodeFrom (some p) bs
  | some p, b :: bs =>
    match p.step b.toNat with
    | some (.inl c) => c :: decodeFrom none bs
    | some (.inr q) => decodeFrom (some q) bs
    | none =>
      replacement ::
        match start b.toNat with
        | .inl c => c :: decodeFrom none bs
        | .inr q => decodeFrom (some q) bs

/-- The text of any bytes. -/
def decode (bytes : List UInt8) : Text := decodeFrom none bytes

end DocQuery.Utf8
