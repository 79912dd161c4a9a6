import DocQuery.Json.Basic
import DocQuery.Text.Hex

/-!
# Reading JSON

* `Json.parse?`: the tree that a text writes, with blanks allowed around every token and nothing
  behind the value.

Each reader takes its part from the front of a text and gives back the rest. Values, items and
entries read each other; every round of that takes at least one character off the text, so that
twice its length bounds the depth of the calls.
-/

namespace DocQuery.Json

/-- The blanks between tokens: space, tab, line feed and carriage return. -/
def isBlank (c : Char) : Bool := c = ' ' || c = '\t' || c = '\n' || c = '\r'

/-- A text without its leading blanks. -/
def skipBlanks (text : Text) : Text := text.dropWhile isBlank

/-! ## Strings -/

/-- The code unit of an escape of one letter. -/
def escape? (c : Char) : Option Nat :=
  if c = '"' || c = '\\' || c = '/' then some c.toNat
  else if c = 'b' then some 0x08
  else if c = 'f' then some 0x0C
  else if c = 'n' then some 0x0A
  else if c = 'r' then some 0x0D
  else if c = 't' then some 0x09
  else none

/-- Takes the code units of a string, up to its closing quote. Control characters have to be
escaped. -/
def readUnits? : Text → Option (List Nat × Text)
  | [] => none
  | '"' :: rest => some ([], rest)
  | '\\' :: 'u' :: a :: b :: c :: d :: rest => do
    let unit ← hexValue? [a, b, c, d]
    let (units, rest) ← readUnits? rest
    return (unit :: units, rest)
  | '\\' :: c :: rest => do
    let unit ← escape? c
    let (units, rest) ← readUnits? rest
    return (unit :: units, rest)
  | c :: rest =>
    if c.toNat < 0x20 then none
    else (readUnits? rest).map fun (units, rest) => (c.toNat :: units, rest)

/-- Takes a string whose opening quote has been taken. -/
def readString? (text : Text) : Option (Option Text × Text) :=
  (readUnits? text).map fun (units, rest) => (textOfUnits? units, rest)

/-! ## Numbers and words -/

/-- Whether a decimal number has the form of a JSON number: digits before the point, without a
leading zero, and digits behind the point if there is one. -/
def isJsonNumber (d : Decimal) : Bool :=
  !d.whole.isEmpty && (d.whole = ['0'] || d.whole.head? ≠ some '0') && d.endsInDigit

/-- Takes a number. -/
def readNumber? (text : Text) : Option (Json × Text) :=
  let (negative, body) := match text with
    | '-' :: rest => (true, rest)
    | _ => (false, text)
  match Decimal.read? body with
  | some (d, rest) => if isJsonNumber d then some (.number negative d, rest) else none
  | none => none

/-- The values that are written as words. -/
def words : List (Text × Json) :=
  [("null".toList, .null), ("true".toList, .bool true), ("false".toList, .bool false)]

/-- Takes a word or a number. -/
def readScalar? (text : Text) : Option (Json × Text) :=
  match words.findSome? fun (word, v) => (word.isPrefixOf? text).map fun rest => (v, rest) with
  | some result => some result
  | none => readNumber? text

/-! ## Values -/

mutual

/-- Takes a value. -/
def readValue? : Nat → Text → Option (Json × Text)
  | 0, _ => none
  | fuel + 1, text =>
    match skipBlanks text with
    | '"' :: rest => (readString? rest).map fun (s, rest) => (.string s, rest)
    | '[' :: rest =>
      match skipBlanks rest with
      | ']' :: rest => some (.array [], rest)
      | rest => (readItems? fuel rest).map fun (items, rest) => (.array items, rest)
    | '{' :: rest =>
      match skipBlanks rest with
      | '}' :: rest => some (.object [], rest)
      | rest => (readEntries? fuel rest).map fun (entries, rest) => (.object entries, rest)
    | rest => readScalar? rest

/-- Takes the items of an array, up to its closing bracket. -/
def readItems? : Nat → Text → Option (List Json × Text)
  | 0, _ => none
  | fuel + 1, text => do
    let (item, rest) ← readValue? fuel text
    match skipBlanks rest with
    | ',' :: rest =>
      let (items, rest) ← readItems? fuel rest
      return (item :: items, rest)
    | ']' :: rest => return ([item], rest)
    | _ => none

/-- Takes the entries of an object, up to its closing brace. -/
def readEntries? : Nat → Text → Option (List (Option Text × Json) × Text)
  | 0, _ => none
  | fuel + 1, text =>
    match skipBlanks text with
    | '"' :: rest => do
      let (key, rest) ← readString? rest
      match skipBlanks rest with
      | ':' :: rest =>
        let (v, rest) ← readValue? fuel rest
        match skipBlanks rest with
        | ',' :: rest =>
          let (entries, rest) ← readEntries? fuel rest
          return ((key, v) :: entries, rest)
        | '}' :: rest => return ([(key, v)], rest)
        | _ => none
      | _ => none
    | _ => none

end

/-- The tree that a text writes. -/
def parse? (text : Text) : Option Json :=
  match readValue? (2 * text.length + 2) text with
  | some (json, rest) => if (skipBlanks rest).isEmpty then some json else none
  | none => none

end DocQuery.Json
