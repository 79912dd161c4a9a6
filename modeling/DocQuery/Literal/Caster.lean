import DocQuery.Error
import DocQuery.Literal.Rule

/-!
# Casters

A caster takes over the values that are written as its name with an inner text in parentheses.

* `CasterTable`: casters by name, in order of registration.
* `CasterTable.claim?`: the first caster that claims a text.
* `CasterTable.cast`: the value of a text. The strings in a list are cast once more; a list that
  comes out of that stays as it is.
-/

namespace DocQuery

/-- The value of an inner text, or the cause why there is none. -/
abbrev Caster := Text → Except Text Value

/-- Casters by name, in order of registration. -/
abbrev CasterTable := Dict Caster

namespace CasterTable

/-- The inner text of a value that is written as a name with an inner text in parentheses. -/
def inner? (name value : Text) : Option Text := Text.between? (name ++ ['(']) [')'] value

/-- The first caster that claims a value, by its name, with the inner text. -/
def claim? (casters : CasterTable) (value : Text) : Option (Text × Caster × Text) :=
  casters.findSome? fun (name, caster) => (inner? name value).map fun inner => (name, caster, inner)

/-- The value of a text by the caster that claims it, or by the rules for literals. -/
def castText (casters : CasterTable) (value : Text) : Except QueryError Value :=
  match claim? casters value with
  | some (name, caster, inner) => (caster inner).mapError (.casterFailed value name)
  | none => .ok (readLiteral value)

/-- An item of a list. Strings are cast, everything else stays. -/
def castItem (casters : CasterTable) : Value → Except QueryError Value
  | .string text => castText casters text
  | v => .ok v

/-- The value of a text, with the strings of a list cast as well. -/
def cast (casters : CasterTable) (value : Text) : Except QueryError Value := do
  match ← castText casters value with
  | .array items => return .array (← items.mapM (castItem casters))
  | v => return v

end CasterTable

end DocQuery
