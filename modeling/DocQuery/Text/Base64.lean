import DocQuery.Text.Basic

/-!
# Base64 text

Three bytes are written as four characters of six bits each. Of the last bytes one or two may be
missing, and equals signs fill up the four characters.

* `base64Bytes?`: the bytes that a text writes. The equals signs have to be there, and the bits that
  belong to no byte have to be zeros.
-/

namespace DocQuery

/-- The characters, each in the place of its value. -/
def base64Alphabet : Text :=
  "ABCDEFGHIJKLMNOPQRSTUVWXYZabcdefghijklmnopqrstuvwxyz0123456789+/".toList

/-- The number that characters write, on from the characters read before them. -/
def base64ValueFrom? : Nat → Text → Option Nat
  | n, [] => some n
  | n, c :: rest => (base64Alphabet.idxOf? c).bind fun d => base64ValueFrom? (64 * n + d) rest

/-- The three bytes of a number. -/
def threeBytes (n : Nat) : List UInt8 :=
  [UInt8.ofNat (n / 65536), UInt8.ofNat (n / 256), UInt8.ofNat n]

/-- The one, two or three bytes that the last characters write. -/
def lastBytes? (chars : Text) : Option (List UInt8) :=
  let digits := (chars.reverse.dropWhile (· = '=')).reverse
  match digits.length with
  | 2 => (base64ValueFrom? 0 digits).bind fun n =>
    if n % 16 = 0 then some [UInt8.ofNat (n / 16)] else none
  | 3 => (base64ValueFrom? 0 digits).bind fun n =>
    if n % 4 = 0 then some [UInt8.ofNat (n / 1024), UInt8.ofNat (n / 4)] else none
  | 4 => (base64ValueFrom? 0 digits).map threeBytes
  | _ => none

/-- The bytes that a text writes. -/
def base64Bytes? : Text → Option (List UInt8)
  | [] => some []
  | [a, b, c, d] => lastBytes? [a, b, c, d]
  | a :: b :: c :: d :: rest => do
    let n ← base64ValueFrom? 0 [a, b, c, d]
    let bytes ← base64Bytes? rest
    return threeBytes n ++ bytes
  | _ => none

end DocQuery
