import DocQuery.Text.Basic

/-!
# Sort keys

* `SortKey`: a field and the direction in which it is sorted.
* `SortKey.parseList?`: the keys of a value such as `-created,+price,name`.
-/

namespace DocQuery

/-- A direction to sort in. -/
inductive Direction where
  | ascending
  | descending
deriving DecidableEq, Repr

/-- The number that stands for a direction. -/
def Direction.number : Direction → Int32
  | ascending => 1
  | descending => -1

/-- A field to sort by. -/
structure SortKey where
  field : Text
  direction : Direction
deriving DecidableEq, Repr

namespace SortKey

/-- The key that one entry writes. One leading sign tells the direction. -/
def parse : Text → SortKey
  | '+' :: field => ⟨field, .ascending⟩
  | '-' :: field => ⟨field, .descending⟩
  | field => ⟨field, .ascending⟩

/-- The keys of a value, one for each entry between commas. An empty value has none. -/
def parseList? (value : Text) : Option (List SortKey) :=
  if value.isEmpty then none else some ((value.splitOn ',').map parse)

end SortKey

end DocQuery
