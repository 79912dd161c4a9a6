import DocQuery.Query.Basic
import DocQuery.Value.Extended

/-!
# Queries as documents

* `Relation.toDocument`: a relation as a document with its name, its projection and, if there are
  any, the relations below it.
* `Query.toDocument`: a query as a document. It fails if a number does not fit into 64 bits with a
  sign.

All documents on the way are exchanged with the database, so that each one that is the form of
another value becomes that value.
-/

namespace DocQuery

/-- A document that may be missing. -/
def optionalDocument : Option Document → Value
  | none => .null
  | some d => (Value.document d).reduced

mutual

/-- A relation as a document. -/
def Relation.toDocument : Relation → Document
  | .mk path projection children =>
    [("path".toList, .string path), ("projection".toList, optionalDocument projection)] ++
      if children.isEmpty then [] else [("population".toList, .array (relationValues children))]

/-- Relations as values. -/
def relationValues : List Relation → List Value
  | [] => []
  | r :: rest => reduce r.toDocument :: relationValues rest

end

/-- A sort key as a pair of its field and its direction. -/
def SortKey.value (key : SortKey) : Value :=
  .array [.string key.field, .int32 key.direction.number]

/-- The sort keys as an array of pairs. -/
def sortValue : Option (List SortKey) → Value
  | none => .null
  | some keys => .array (keys.map SortKey.value)

/-- A number that is too large for 64 bits with a sign. -/
structure TooLarge where
  number : Nat
deriving DecidableEq, Repr

/-- A number as a value. -/
def countValue (n : Nat) : Except TooLarge Value :=
  (toInt64? n).elim (.error ⟨n⟩) fun n => .ok (.int64 n)

/-- A query as a document. -/
def Query.toDocument (q : Query) : Except TooLarge Document := do
  let skip ← countValue q.skip
  let limit ← countValue q.limit
  return [("filter".toList, (Value.document q.filter).reduced), ("sort".toList, sortValue q.sort),
      ("skip".toList, skip), ("limit".toList, limit),
      ("projection".toList, optionalDocument q.projection)] ++
    match q.population with
    | none => []
    | some relations => [("population".toList, .array (relationValues relations))]

end DocQuery
