import DocQuery.Number.Decimal

/-!
# Binary floating-point numbers of 64 bits

* `Binary64`: a number as its bits.
* `Binary64.ofNumeral`: the number nearest to a numeral, of two that are equally near the one with
  an even last bit; too large is infinite and too small is zero. The computation is exact.
* `Binary64.parse?`: the same from text, with the words for infinity and for no number.
-/

namespace DocQuery

/-- A floating-point number as its bits: a sign, eleven of exponent and 52 of significand. -/
structure Binary64 where
  bits : UInt64
deriving DecidableEq, Repr

namespace Binary64

/-- The bits of positive infinity, which are those above every finite number. -/
def infinityBits : Nat := 0x7FF0000000000000

/-- The bit of the sign. -/
def signBit : Nat := 0x8000000000000000

/-- The weight of the exponent, which is the leading bit of a full significand. -/
def leadingBit : Nat := 0x10000000000000

/-- The number with the given sign and the given bits behind it. -/
def ofMagnitude (negative : Bool) (bits : Nat) : Binary64 :=
  ⟨UInt64.ofNat (if negative then signBit + bits else bits)⟩

/-- Infinity. -/
def infinity (negative : Bool) : Binary64 := ofMagnitude negative infinityBits

/-- What is no number. -/
def nan : Binary64 := ⟨0x7FF8000000000000⟩

/-- The bits without the sign. -/
def magnitude (x : Binary64) : Nat := x.bits.toNat % signBit

/-- Whether a number is neither infinite nor no number. -/
def isFinite (x : Binary64) : Bool := x.magnitude < infinityBits

/-! ## Rounding -/

/-- The integer nearest to `num / den`, of two that are equally near the even one. -/
def roundRatio (num den : Nat) : Nat :=
  let q := num / den
  let r := num % den
  if den < 2 * r || (2 * r = den && q % 2 = 1) then q + 1 else q

/-- The ratio `num / den` divided by `2 ^ e`, as a ratio. -/
def scale (num den : Nat) (e : Int) : Nat × Nat :=
  if 0 ≤ e then (num, den <<< e.toNat) else (num <<< (-e).toNat, den)

/-- The weight of the last bit of the significand for the ratio `num / den`: the quotient by it
has 53 bits, unless it is the least weight there is. -/
def lastBit (num den : Nat) : Int :=
  let e : Int := num.log2 - den.log2 - 52
  let (n, d) := scale num den e
  let e := if n < leadingBit * d then e - 1 else e
  if e < -1074 then -1074 else e

/-- The bits nearest to the positive ratio `num / den`. A significand rounded up to 54 bits carries
into the exponent, as it should. -/
def magnitudeOfRatio (num den : Nat) : Nat :=
  let e := lastBit num den
  let (n, d) := scale num den e
  let bits := (e + 1074).toNat * leadingBit + roundRatio n d
  if infinityBits < bits then infinityBits else bits

/-- The number nearest to a numeral. Powers of ten far beyond both ends of the finite numbers are
not computed: `10 ^ 401` is too large, and what is below `10 ^ (-400)` is zero. -/
def ofNumeral (n : Numeral) : Binary64 :=
  let digits : Int := n.coefficient.log2 / 3 + 1
  ofMagnitude n.negative <|
    if n.coefficient = 0 then 0
    else if 400 < n.exponent then infinityBits
    else if n.exponent + digits < -400 then 0
    else if 0 ≤ n.exponent then magnitudeOfRatio (n.coefficient * powerOfTen n.exponent.toNat) 1
    else magnitudeOfRatio n.coefficient (powerOfTen (-n.exponent).toNat)

/-! ## Reading -/

/-- The number that a text writes: an optional sign, and digits on at least one side of an optional
point with an optional exponent, or `inf`, `infinity` or `nan` in any case. -/
def parse? (text : Text) : Option Binary64 :=
  let (negative, body) := splitSign text
  if body.lower = "inf".toList || body.lower = "infinity".toList then some (infinity negative)
  else if body.lower = "nan".toList then some nan
  else
    match Decimal.ofText? body with
    | some d => if d.hasDigits then some (ofNumeral (d.numeral negative)) else none
    | none => none

end Binary64

end DocQuery
