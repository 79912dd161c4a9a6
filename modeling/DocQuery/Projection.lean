import DocQuery.Json.Parser
import DocQuery.Json.Value
import DocQuery.Relation.Population

/-!
# Projections

A projection says which fields a result includes. It is written as tokens between commas: a name to
include, a name behind a hyphen to exclude, or a JSON object whose first entry is taken over.

* `Projection.readEntry`: the entry that a token writes.
* `Projection.routeInPlace`: a token with a dotted name can belong to a relation of the population.
* `Projection.parse`: the projection of a value, and the population with its share of the fields.
-/

namespace DocQuery.Projection

/-- The number of containers that may be nested in a literal. -/
def maxDepth : Nat := 127

/-- The first entry of the JSON object that a literal writes. -/
def readLiteral (token : Text) : Except LiteralFault (Text × Value) :=
  match Json.parse? token with
  | some (.object entries) =>
    if (Json.object entries).isSound maxDepth then
      match entries with
      | (some key, v) :: _ =>
        match v.value? with
        | some v => .ok (key, v)
        | none => .error .tooLarge
      | _ => .error .empty
    else .error .malformed
  | _ => .error .malformed

/-- Whether a token is a literal. -/
def isLiteral (token : Text) : Bool := token.head? = some '{' && token.getLast? = some '}'

/-- The entry that a token writes. -/
def readEntry : Text → Except QueryError (Text × Value)
  | '-' :: field => .ok (field, .int32 0)
  | token =>
    if isLiteral token then (readLiteral token).mapError (.literal token)
    else .ok (token, .int32 1)

/-- The field of a token and what a relation gets for it. -/
def signedField : Text → Text × Int32
  | '-' :: field => (field, 0)
  | token => (token, 1)

/-- Whether a token has a dot, but not in front. -/
def isDotted (token : Text) : Bool := token.contains '.' && token.head? ≠ some '.'

/-- Routes the field of a token, if the token is dotted and its first name is that of a relation at
the top. The result is whether it is routed. -/
def routeInPlace (token : Text) (relations : Population) : Bool × Population :=
  if isDotted token then
    Population.routeInPlace (signedField token).1 (.int32 (signedField token).2) relations
  else (false, relations)

/-- Reads tokens one after the other. A token that is routed leaves no entry. The fields routed
before an error stay in the population. -/
def parseTokens : List Text → Document → Population → Except QueryError Document × Population
  | [], fields, relations => (.ok fields, relations)
  | token :: rest, fields, relations =>
    match routeInPlace token relations with
    | (true, relations) => parseTokens rest fields relations
    | (false, relations) =>
      match readEntry token with
      | .ok (key, v) => parseTokens rest (Dict.insert key v fields) relations
      | .error e => (.error e, relations)

/-- A projection, if it has any fields. -/
def ofFields (fields : Document) : Option Document := if fields.isEmpty then none else some fields

/-- The projection of a value, and the population with the fields that belong to its relations. An
empty value asks for none. -/
def parse (value : Text) (relations : Population) :
    Except QueryError (Option Document) × Population :=
  if value.isEmpty then (.ok none, relations)
  else
    let (result, relations) := parseTokens (value.splitOn ',') [] relations
    (result.map ofFields, relations)

end DocQuery.Projection
