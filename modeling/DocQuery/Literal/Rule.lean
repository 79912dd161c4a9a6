import DocQuery.Calendar.Rfc3339
import DocQuery.Literal.Pattern
import DocQuery.Number.Binary64
import DocQuery.Text.Word
import DocQuery.Value.Basic

/-!
# Literals

A literal is a text that writes a value of another type than text.

* `Rule`: the ways to write one. `Rule.read?` is the value that a text writes in that way.
* `readLiteral`: the value by the first rule that claims a text, or the text itself.
-/

namespace DocQuery

/-- A way to write a value. -/
inductive Rule where
  | integer
  | float
  | dateTime
  | wordList
  | pattern
  | word
deriving DecidableEq, Repr

namespace Rule

/-- All rules in the order in which they are tried. Integers come before floating-point numbers,
which integers out of range become. -/
def all : List Rule := [integer, float, dateTime, wordList, pattern, word]

/-- An integer of 64 bits. -/
def readInteger? (text : Text) : Option Int64 := (integer? text).bind toInt64?

/-- A floating-point number: an optional sign, and a decimal number with a digit at its end or
right before its exponent. -/
def readFloat? (text : Text) : Option Binary64 :=
  let (negative, body) := splitSign text
  match Decimal.ofText? body with
  | some d => if d.endsInDigit then some (Binary64.ofNumeral (d.numeral negative)) else none
  | none => none

/-- A date and time, complete or with parts missing, in milliseconds since the epoch. -/
def readDateTime? (text : Text) : Option Int :=
  (Stamp.read? text).bind fun stamp => (Rfc3339.millis? text).or stamp.millis?

/-- Two or more words with commas between them. -/
def readWords? (text : Text) : Option (List Text) :=
  let words := text.splitOn ','
  if 2 ≤ words.length && words.all Text.isWordText then some words else none

/-- A truth value or no value, in any case. -/
def readWord? (text : Text) : Option Value :=
  let name := text.lower
  if name = "true".toList then some (.bool true)
  else if name = "false".toList then some (.bool false)
  else if name = "null".toList || name = "none".toList then some .null
  else none

/-- The value that a text writes in a given way. -/
def read? : Rule → Text → Option Value
  | integer, text => (readInteger? text).map .int64
  | float, text => (readFloat? text).map .double
  | dateTime, text => (readDateTime? text).map .dateTime
  | wordList, text => (readWords? text).map fun words => .array (words.map .string)
  | pattern, text => (Pattern.read? text).map fun p => .regex p.source p.options
  | word, text => readWord? text

end Rule

/-- The value that a text writes by the first of some rules that claims it, or the text itself. -/
def readBy (rules : List Rule) (text : Text) : Value :=
  (rules.findSome? (·.read? text)).getD (.string text)

/-- The value that a text writes. -/
def readLiteral (text : Text) : Value := readBy Rule.all text

end DocQuery
