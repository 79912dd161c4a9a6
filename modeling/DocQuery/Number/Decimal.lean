import DocQuery.Text.Basic

/-!
# Decimal numbers

* `splitSign`, `natural?`, `integer?`: an optional sign and digits.
* `toInt32?`, `toInt64?`: an integer as a word, if it fits.
* `Decimal`: digits with an optional point and an optional exponent, as written; `Decimal.read?`
  takes one from the front of a text.
* `Numeral`: the number written, a coefficient times a power of ten.
-/

namespace DocQuery

/-! ## Integers -/

/-- Whether a text begins with a minus sign, and the text without its one leading sign. -/
def splitSign : Text → Bool × Text
  | '-' :: rest => (true, rest)
  | '+' :: rest => (false, rest)
  | text => (false, text)

/-- The value of a text of decimal digits. -/
def digitsValue (digits : Text) : Nat := Nat.ofDigitChars 10 digits 0

/-- The number that a non-empty text of decimal digits writes. -/
def natural? (text : Text) : Option Nat :=
  if !text.isEmpty && text.all Char.isDigit then some (digitsValue text) else none

/-- A number with a sign. -/
def signed (negative : Bool) (n : Nat) : Int := if negative then -(n : Int) else n

/-- The number that an optional sign and one or more decimal digits write. -/
def integer? (text : Text) : Option Int :=
  (natural? (splitSign text).2).map (signed (splitSign text).1)

/-- An integer as a word of 32 bits, if it fits. -/
def toInt32? (n : Int) : Option Int32 :=
  if -0x80000000 ≤ n ∧ n < 0x80000000 then some (Int32.ofInt n) else none

/-- An integer as a word of 64 bits, if it fits. -/
def toInt64? (n : Int) : Option Int64 :=
  if -0x8000000000000000 ≤ n ∧ n < 0x8000000000000000 then some (Int64.ofInt n) else none

/-! ## Numerals -/

/-- The power of ten with an exponent. -/
def powerOfTen (exponent : Nat) : Nat := Nat.pow 10 exponent

/-- The number `coefficient * 10 ^ exponent` with a sign. -/
structure Numeral where
  negative : Bool
  coefficient : Nat
  exponent : Int
deriving DecidableEq, Repr

/-- A decimal number without its sign, as written. -/
structure Decimal where
  /-- The digits before the point. -/
  whole : Text
  /-- The digits after the point, if there is one. -/
  fraction : Option Text
  /-- The exponent, if there is one. -/
  exponent : Option Int
deriving DecidableEq, Repr

namespace Decimal

/-- Takes an exponent with its mark from the front of a text. A mark without digits is refused. -/
def readExponent? : Text → Option (Option Int × Text)
  | [] => some (none, [])
  | c :: rest =>
    if c = 'e' || c = 'E' then
      let (negative, body) := splitSign rest
      let (digits, rest) := body.span Char.isDigit
      if digits.isEmpty then none else some (some (signed negative (digitsValue digits)), rest)
    else some (none, c :: rest)

/-- Takes a point with the digits behind it from the front of a text. -/
def readFraction : Text → Option Text × Text
  | '.' :: rest =>
    let (digits, rest) := rest.span Char.isDigit
    (some digits, rest)
  | text => (none, text)

/-- Takes a decimal number, which may have no digits yet, from the front of a text. -/
def read? (text : Text) : Option (Decimal × Text) :=
  let (whole, rest) := text.span Char.isDigit
  let (fraction, rest) := readFraction rest
  (readExponent? rest).map fun (exponent, rest) => (⟨whole, fraction, exponent⟩, rest)

/-- The decimal number that is the whole text. -/
def ofText? (text : Text) : Option Decimal :=
  match read? text with
  | some (d, []) => some d
  | _ => none

/-- Whether there is a digit on either side of the point. -/
def hasDigits (d : Decimal) : Bool := !d.whole.isEmpty || !(d.fraction.getD []).isEmpty

/-- Whether a digit stands right before the exponent or the end. -/
def endsInDigit (d : Decimal) : Bool := !(d.fraction.getD d.whole).isEmpty

/-- Whether there is neither a point nor an exponent. -/
def isInteger (d : Decimal) : Bool := d.fraction.isNone && d.exponent.isNone

/-- The number that is written. -/
def numeral (negative : Bool) (d : Decimal) : Numeral where
  negative := negative
  coefficient := digitsValue (d.whole ++ d.fraction.getD [])
  exponent := d.exponent.getD 0 - (d.fraction.getD []).length

end Decimal

end DocQuery
