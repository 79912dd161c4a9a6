import DocQuery.Text.Basic

/-!
# Hexadecimal text

* `hexDigit?`: the value of one hexadecimal digit, in either case.
* `hexValue?`: the number that a text of hexadecimal digits writes.
* `hexText`: a number in lower-case hexadecimal digits, filled up with zeros to a width.
-/

namespace DocQuery

/-- The value of a hexadecimal digit, in either case. -/
def hexDigit? (c : Char) : Option Nat :=
  if c.isDigit then some (c.toNat - '0'.toNat)
  else if 'a' ≤ c && c ≤ 'f' then some (c.toNat - 'a'.toNat + 10)
  else if 'A' ≤ c && c ≤ 'F' then some (c.toNat - 'A'.toNat + 10)
  else none

/-- The number that a text of hexadecimal digits writes, on from the digits read before it. -/
def hexValueFrom? : Nat → Text → Option Nat
  | n, [] => some n
  | n, c :: rest => (hexDigit? c).bind fun d => hexValueFrom? (16 * n + d) rest

/-- The number that a non-empty text of hexadecimal digits writes. -/
def hexValue? (text : Text) : Option Nat :=
  if text.isEmpty then none else hexValueFrom? 0 text

/-- A number in lower-case hexadecimal digits, with leading zeros up to `width` digits. -/
def hexText (width n : Nat) : Text := (Nat.toDigits 16 n).leftpad width '0'

end DocQuery
