import DocQuery.Number.Decimal

/-!
# Decimal floating-point numbers of 128 bits

A finite number is a coefficient of up to 34 digits times a power of ten. Its trailing zeros count:
`1.50` and `1.5` are two numbers.

* `Decimal128`: a number as its bits.
* `Decimal128.parse?`: the number that a text writes, if it can be written without rounding, or one
  of the words for infinity and for no number.
* `Decimal128.ofBytes?`: the number whose bits are given as bytes, the lowest one first.
-/

namespace DocQuery

/-- A decimal floating-point number as its bits: a sign, fourteen of exponent and 113 of
coefficient. -/
structure Decimal128 where
  bits : BitVec 128
deriving DecidableEq, Repr

namespace Decimal128

/-- The bit of the sign. -/
def signBit : Nat := 0x80000000000000000000000000000000

/-- The weight of the exponent. -/
def exponentUnit : Nat := 0x20000000000000000000000000000

/-- The bits of positive infinity. -/
def infinityBits : Nat := 0x78000000000000000000000000000000

/-- The bits of what is no number and may be computed with. -/
def quietBits : Nat := 0x7C000000000000000000000000000000

/-- The bits of what is no number and may not be computed with. -/
def signalingBits : Nat := 0x7E000000000000000000000000000000

/-- The number with the given sign and the given bits behind it. -/
def ofMagnitude (negative : Bool) (bits : Nat) : Decimal128 :=
  ⟨BitVec.ofNat 128 (if negative then signBit + bits else bits)⟩

/-- The number of digits that a coefficient can have. -/
def maxDigits : Nat := 34

/-- The least exponent. -/
def leastExponent : Int := -6176

/-- The greatest exponent. -/
def greatestExponent : Int := 6111

/-- The bytes of a word in ascending order of their weights, as a number. -/
def littleEndian (bytes : List UInt8) : Nat := bytes.foldr (fun b n => b.toNat + 256 * n) 0

/-- The number with the given bits, the lowest byte first. -/
def ofBytes? (bytes : List UInt8) : Option Decimal128 :=
  if bytes.length = 16 then some ⟨BitVec.ofNat 128 (littleEndian bytes)⟩ else none

/-! ## Reading -/

/-- An exponent, which has to fit into 16 bits. -/
def exponent? (e : Int) : Option Int := if -0x8000 ≤ e ∧ e < 0x8000 then some e else none

/-- The digits in front of an exponent, and the exponent. -/
def readExponent? (text : Text) : Option (Text × Int) :=
  match Text.cut? ['e'] text with
  | none => some (text, 0)
  | some (digits, exponent) =>
    ((integer? exponent).bind exponent?).map fun e => (digits, e)

/-- The digits on both sides of a point, and the exponent for the last one of them. -/
def joinPoint? (digits : Text) (e : Int) : Option (Text × Int) :=
  match Text.cut? ['.'] digits with
  | none => some (digits, e)
  | some (whole, fraction) => do
    let places ← exponent? fraction.length
    let e ← exponent? (e - places)
    return (whole ++ fraction, e)

/-- The digits without the leading zeros. One zero stays if there is nothing else. -/
def dropZeros (digits : Text) : Text :=
  let rest := digits.dropWhile (· = '0')
  if rest.isEmpty && !digits.isEmpty then ['0'] else rest

/-- The first digits, if all behind them are zeros. -/
def cutZeros? (count : Nat) (digits : Text) : Option Text :=
  if (digits.drop count).all (· = '0') then some (digits.take count) else none

/-- The digits that a coefficient can have, with the exponent that belongs to them. -/
def fitDigits? (digits : Text) (e : Int) : Option (Text × Int) := do
  let kept ← cutZeros? maxDigits digits
  let e ← exponent? (e + (digits.length - kept.length : Nat))
  return (kept, e)

/-- The digits that belong to an exponent within its bounds, and that exponent. Zeros are dropped
from a coefficient with a lower one and appended to a coefficient with a higher one. -/
def fitExponent? (digits : Text) (e : Int) : Option (Text × Int) :=
  if e < leastExponent then
    let excess := (leastExponent - e).toNat
    if digits = ['0'] then some (digits, leastExponent)
    else if digits.length < excess then none
    else (cutZeros? (digits.length - excess) digits).map fun digits => (digits, leastExponent)
  else if greatestExponent < e then
    let missing := (e - greatestExponent).toNat
    if digits = ['0'] then some (digits, greatestExponent)
    else if maxDigits < digits.length + missing then none
    else some (digits ++ List.replicate missing '0', greatestExponent)
  else some (digits, e)

/-- The number that digits write, which may have a plus sign. -/
def coefficient? : Text → Option Nat
  | '+' :: digits => natural? digits
  | digits => natural? digits

/-- The finite number that a text writes, if it can be written without rounding. -/
def finite? (negative : Bool) (text : Text) : Option Decimal128 := do
  let (digits, e) ← readExponent? text
  let (digits, e) ← joinPoint? digits e
  let (digits, e) ← fitDigits? (dropZeros digits) e
  let (digits, e) ← fitExponent? digits e
  let coefficient ← coefficient? digits
  return ofMagnitude negative ((e - leastExponent).toNat * exponentUnit + coefficient)

/-- The number that a text writes: an optional sign, and digits with an optional point and an
optional exponent, or `inf`, `infinity`, `nan` or `snan` in any case. -/
def parse? (text : Text) : Option Decimal128 :=
  let (negative, body) := splitSign text
  if body.lower = "nan".toList then some (ofMagnitude negative quietBits)
  else if body.lower = "snan".toList then some (ofMagnitude negative signalingBits)
  else if body.lower = "inf".toList || body.lower = "infinity".toList then
    some (ofMagnitude negative infinityBits)
  else finite? negative body.lower

end Decimal128

end DocQuery
