import DocQuery.Json.Basic
import DocQuery.Value.Extended

/-!
# Values of JSON trees

* `Json.numberOf?`: the number that a JSON number stands for, an integer of at most 64 bits or a
  floating-point number; one beyond the finite numbers stands for none.
* `Json.isSound`: every string spells a text, every number stands for one, and the containers are
  nested to a limited depth.
* `Json.value?`: the value of a sound tree. Integers have 64 bits with a sign, so that one above
  these has no value, and objects are reduced from the inside out.
-/

namespace DocQuery.Json

/-- The number that a JSON number stands for. -/
inductive Number where
  | integer (n : Int)
  | double (x : Binary64)
deriving DecidableEq, Repr

/-- The number that a JSON number stands for. Integers go down to the least one with a sign and up
to the greatest one without; those beyond are floating-point numbers, and so is `-0`. -/
def numberOf? (negative : Bool) (d : Decimal) : Option Number :=
  let numeral := d.numeral negative
  let n := signed negative numeral.coefficient
  if d.isInteger && !(negative && n = 0) && -0x8000000000000000 ≤ n && n < 0x10000000000000000 then
    some (.integer n)
  else
    let x := Binary64.ofNumeral numeral
    if x.isFinite then some (.double x) else none

mutual

/-- Whether every string spells a text, every number stands for one and the containers are nested
at most `depth` deep. -/
def isSound : Nat → Json → Bool
  | _, .null => true
  | _, .bool _ => true
  | _, .number negative d => (numberOf? negative d).isSome
  | _, .string text => text.isSome
  | 0, .array _ => false
  | depth + 1, .array items => areSound depth items
  | 0, .object _ => false
  | depth + 1, .object entries => areSoundEntries depth entries

/-- Whether all items are sound. -/
def areSound : Nat → List Json → Bool
  | _, [] => true
  | depth, v :: rest => isSound depth v && areSound depth rest

/-- Whether all keys and values are sound. -/
def areSoundEntries : Nat → List (Option Text × Json) → Bool
  | _, [] => true
  | depth, (key, v) :: rest => key.isSome && isSound depth v && areSoundEntries depth rest

end

mutual

/-- The value of a sound tree, unless an integer in it is too large for one. -/
def value? : Json → Option Value
  | .null => some .null
  | .bool b => some (.bool b)
  | .number negative d =>
    match numberOf? negative d with
    | some (.integer n) => (toInt64? n).map .int64
    | some (.double x) => some (.double x)
    | none => none
  | .string text => text.map .string
  | .array items => (values? items).map .array
  | .object entries => (entries? entries).map fun entries => reduce (Dict.ofList entries)

/-- The value of each item. -/
def values? : List Json → Option (List Value)
  | [] => some []
  | v :: rest => do return (← value? v) :: (← values? rest)

/-- Each key with its value. -/
def entries? : List (Option Text × Json) → Option (List (Text × Value))
  | [] => some []
  | (key, v) :: rest => do return (← key, ← value? v) :: (← entries? rest)

end

end DocQuery.Json
