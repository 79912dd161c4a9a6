import DocQuery.Text.Hex
import DocQuery.Text.Utf8

/-!
# Percent-encoded text

* `Percent.bytes`: the bytes that a text with escapes stands for. A percent sign with two
  hexadecimal digits behind it is one byte; everything else stands for itself in UTF-8.
* `Percent.decode`: those bytes read as UTF-8, in one pass.
-/

namespace DocQuery.Percent

/-- The byte that two hexadecimal digits write. -/
def byte? (high low : Char) : Option UInt8 :=
  (hexDigit? high).bind fun h => (hexDigit? low).map fun l => UInt8.ofNat (16 * h + l)

/-- The bytes that a text with escapes stands for. -/
def bytes : Text → List UInt8
  | '%' :: high :: low :: rest =>
    match byte? high low with
    | some b => b :: bytes rest
    | none => Utf8.encodeChar '%' ++ bytes (high :: low :: rest)
  | c :: rest => Utf8.encodeChar c ++ bytes rest
  | [] => []

/-- The text that a text with escapes stands for. -/
def decode (text : Text) : Text := Utf8.decode (bytes text)

end DocQuery.Percent
