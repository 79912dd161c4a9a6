import DocQuery.Text.Basic

/-!
# Reserved arguments

* `Reserved`: the names of arguments that are no filters.
* `Reserved.opening`: how such an argument begins.
* `Reserved.ofArgument?`: the reserved name of an argument and its value.
-/

namespace DocQuery

/-- A name with a meaning of its own. -/
inductive Reserved where
  | sort
  | limit
  | skip
  | fields
  | text
  | populate
deriving DecidableEq, Repr

namespace Reserved

/-- All reserved names in the order in which they are looked for. -/
def all : List Reserved := [sort, limit, skip, fields, text, populate]

/-- The name and the equals sign with which an argument begins. -/
def opening : Reserved → Text
  | sort => "sort=".toList
  | limit => "limit=".toList
  | skip => "skip=".toList
  | fields => "fields=".toList
  | text => "$text=".toList
  | populate => "populate=".toList

/-- The reserved name of an argument, if it has one, and all that follows the equals sign. -/
def ofArgument? (argument : Text) : Option (Reserved × Text) :=
  all.findSome? fun name => (name.opening.isPrefixOf? argument).map fun value => (name, value)

end Reserved

end DocQuery
