import DocQuery.Literal.Caster

/-!
# Fragments of filters

* `Fragment`: what one argument asks of one field.
* `Fragment.parse`: the fragment of an argument that has no reserved name.
* `Fragment.search`: the fragment that searches for a phrase.
-/

namespace DocQuery

/-- What is asked of a field: to equal a value, or to satisfy operators. -/
inductive Condition where
  | equals (v : Value)
  | operators (ops : Document)

/-- The condition of one operator. -/
def Condition.operator (keyword : Text) (v : Value) : Condition := .operators [(keyword, v)]

/-- What is asked of one field. -/
structure Fragment where
  field : Text
  condition : Condition

namespace Fragment

/-- The field is there or is not there. -/
def present (field : Text) (b : Bool) : Fragment := ⟨field, .operator existsKeyword (.bool b)⟩

/-- The condition that a comparison with a value makes. A list can only be equal or differ, which
is to contain the field's value or not. -/
def compare (field : Text) : Comparison → Value → Except QueryError Condition
  | .equals, .array items => .ok (.operator inKeyword (.array items))
  | .differs, .array items => .ok (.operator notInKeyword (.array items))
  | comparison, .array _ => .error (.listComparison field comparison)
  | .equals, v => .ok (.equals v)
  | comparison, v => .ok (.operator comparison.keyword v)

/-- The fragment of an argument. The token of its comparison has to occur once. Without one the
argument is the name of a field that has to be there, and behind an exclamation mark it is the name
of one that must not be. -/
def parse (casters : CasterTable) (argument : Text) : Except QueryError Fragment :=
  match Comparison.resolve? argument with
  | none => .ok (present argument true)
  | some comparison =>
    match Text.cut? comparison.token argument with
    | none => .ok (present argument true)
    | some (field, raw) =>
      if Text.has comparison.token raw then .error (.ambiguous argument comparison)
      else if comparison = .absent then .ok (present raw false)
      else do
        let v ← casters.cast raw
        return ⟨field, ← compare field comparison v⟩

/-- The fragment that searches for a phrase, which is taken as it is. -/
def search (phrase : Text) : Except QueryError Fragment :=
  if phrase.isEmpty then .error .emptySearch
  else .ok ⟨textKeyword, .operator searchKeyword (.string phrase)⟩

end Fragment

end DocQuery
