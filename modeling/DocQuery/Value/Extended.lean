import DocQuery.Calendar.Extended
import DocQuery.Order.Stable
import DocQuery.Text.Base64
import DocQuery.Text.Hex
import DocQuery.Value.Basic

/-!
# Extended documents

Some values have a document form, told by its keys alone: `$oid`, `$date`, `$regularExpression`
and so on. Where documents and values are exchanged, a document of that form is read as the value.

* `forms`: the forms with one key, and how each is read.
* `reduce`: a document read as the value that it is the form of, or as itself.
* `Value.reduced`: a value with all documents inside it reduced, the inner ones first.
-/

namespace DocQuery

/-! ## Forms with one key -/

/-- An object identifier from its 24 hexadecimal digits. -/
def readObjectId? : Value → Option Value
  | .string text =>
    if text.length = 24 then (hexValue? text).map fun n => .objectId (BitVec.ofNat 96 n) else none
  | _ => none

/-- A value made of a string. -/
def readString? (make : Text → Option Value) : Value → Option Value
  | .string text => make text
  | _ => none

/-- A date from its milliseconds or from its text. -/
def readDate? : Value → Option Value
  | .int64 n => some (.dateTime n.toInt)
  | .string text => (ExtendedDate.millis? text).map .dateTime
  | _ => none

/-- The bytes of a value, if they are of the general kind. -/
def generalBytes? : Value → Option (List UInt8)
  | .binary kind bytes => if kind = 0 then some bytes else none
  | _ => none

/-- A decimal number from its sixteen bytes. -/
def readDecimalBytes? (v : Value) : Option Value :=
  ((generalBytes? v).bind Decimal128.ofBytes?).map .decimal128

/-- The kind of bytes from its two hexadecimal digits. -/
def readKind? (text : Text) : Option UInt8 :=
  if text.length = 2 then (hexValue? text).map UInt8.ofNat else none

/-- Bytes as base64 text with the digits of their kind. -/
def writtenBytes? (text : Text) : Value → Option Value
  | .string kind => do
    let bytes ← base64Bytes? text
    let kind ← readKind? kind
    return .binary kind bytes
  | _ => none

/-- Bytes with their kind as a number. -/
def countedBytes? : Value → Value → Option Value
  | v, .int32 kind =>
    if 0 ≤ kind.toInt ∧ kind.toInt < 256 then
      (generalBytes? v).map fun bytes => .binary (UInt8.ofNat kind.toInt.toNat) bytes
    else none
  | _, _ => none

/-- Bytes from the entry `base64` of a document or else from the entry `bytes`, with the entry
`subType`. -/
def readBinary? : Value → Option Value
  | .document d => do
    let kind ← Dict.get? "subType".toList d
    match Dict.get? "base64".toList d with
    | some (.string text) => writtenBytes? text kind
    | _ => (Dict.get? "bytes".toList d).bind fun v => countedBytes? v kind
  | _ => none

/-- A pointer from the entries `$ref` and `$id` of a document. -/
def readDbPointer? : Value → Option Value
  | .document d =>
    match Dict.get? "$ref".toList d, Dict.get? "$id".toList d with
    | some (.string collection), some (.objectId id) => some (.dbPointer collection id)
    | _, _ => none
  | _ => none

/-- The number one. -/
def isOne : Value → Bool
  | .int32 n => n == 1
  | .int64 n => n == 1
  | _ => false

/-- The two words of a timestamp. A word of 32 bits is taken as unsigned, one of 64 bits has to
fit. -/
def timestampOf? : Value → Value → Option Value
  | .int32 t, .int32 i => some (.timestamp t.toUInt32 i.toUInt32)
  | .int64 t, .int64 i =>
    if 0 ≤ t.toInt ∧ t.toInt < 0x100000000 ∧ 0 ≤ i.toInt ∧ i.toInt < 0x100000000 then
      some (.timestamp (UInt32.ofNat t.toInt.toNat) (UInt32.ofNat i.toInt.toNat))
    else none
  | _, _ => none

/-- A timestamp from the entries `t` and `i` of a document. -/
def readTimestamp? : Value → Option Value
  | .document d => do timestampOf? (← Dict.get? ['t'] d) (← Dict.get? ['i'] d)
  | _ => none

/-- The options of a regular expression in ascending order. -/
def sortedOptions (options : Text) : Text := sortOn Char.toNat options

/-- A regular expression from the entries `pattern` and `options` of a document. -/
def readRegex? : Value → Option Value
  | .document d =>
    match Dict.get? "pattern".toList d, Dict.get? "options".toList d with
    | some (.string pattern), some (.string options) =>
      some (.regex pattern (sortedOptions options))
    | _, _ => none
  | _ => none

/-- `true`. -/
def isTrue : Value → Bool
  | .bool b => b
  | _ => false

/-- The forms with one key. -/
def forms : Dict (Value → Option Value) :=
  [("$oid".toList, readObjectId?),
    ("$symbol".toList, readString? (some ∘ .symbol)),
    ("$code".toList, readString? (some ∘ .code)),
    ("$numberInt".toList, readString? fun text => ((integer? text).bind toInt32?).map .int32),
    ("$numberLong".toList, readString? fun text => ((integer? text).bind toInt64?).map .int64),
    ("$numberDouble".toList, readString? fun text => (Binary64.parse? text).map .double),
    ("$numberDecimal".toList, readString? fun text => (Decimal128.parse? text).map .decimal128),
    ("$numberDecimalBytes".toList, readDecimalBytes?),
    ("$binary".toList, readBinary?),
    ("$dbPointer".toList, readDbPointer?),
    ("$date".toList, readDate?),
    ("$minKey".toList, fun v => if isOne v then some .minKey else none),
    ("$maxKey".toList, fun v => if isOne v then some .maxKey else none),
    ("$undefined".toList, fun v => if isTrue v then some .undefined else none),
    ("$timestamp".toList, readTimestamp?),
    ("$regularExpression".toList, readRegex?)]

/-! ## Reduction -/

/-- The key of a piece of code. -/
def codeKey : Text := "$code".toList

/-- The key of the scope of a piece of code. -/
def scopeKey : Text := "$scope".toList

/-- Code with a scope. -/
def codeOf? : Value → Value → Option Value
  | .string source, .document scope => some (.codeWithScope source scope)
  | _, _ => none

/-- The value that a document is the form of. -/
def special? : Document → Option Value
  | [(key, v)] => (Dict.get? key forms).bind (· v)
  | [(k, v), (l, w)] =>
    if k = codeKey ∧ l = scopeKey then codeOf? v w
    else if k = scopeKey ∧ l = codeKey then codeOf? w v
    else none
  | _ => none

/-- A document read as the value that it is the form of, or as itself. -/
def reduce (d : Document) : Value := (special? d).getD (.document d)

mutual

/-- A value with all documents inside it reduced, the inner ones first. -/
def Value.reduced : Value → Value
  | .document entries => reduce (reducedEntries entries)
  | .array items => .array (reducedItems items)
  | .regex pattern options => .regex pattern (sortedOptions options)
  | .codeWithScope source scope =>
    reduce [(codeKey, .string source), (scopeKey, reduce (reducedEntries scope))]
  | v => v

/-- Each item reduced. -/
def reducedItems : List Value → List Value
  | [] => []
  | v :: rest => v.reduced :: reducedItems rest

/-- Each value reduced, under its key. -/
def reducedEntries : List (Text × Value) → List (Text × Value)
  | [] => []
  | (key, v) :: rest => (key, v.reduced) :: reducedEntries rest

end

end DocQuery
