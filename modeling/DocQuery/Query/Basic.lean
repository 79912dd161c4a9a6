import DocQuery.Argument.Sort
import DocQuery.Relation.Basic

/-!
# Queries

* `Query`: what a database is asked for.
-/

namespace DocQuery

/-- What a database is asked for. -/
structure Query where
  /-- A condition for each field. -/
  filter : Document := []
  /-- The fields to sort by, if any. -/
  sort : Option (List SortKey) := none
  /-- How many results to leave out at the start. -/
  skip : Nat := 0
  /-- How many results to give at most, all of them if zero. -/
  limit : Nat := 0
  /-- The fields to include or exclude, if any. -/
  projection : Option Document := none
  /-- The relations to expand, where that is allowed. -/
  population : Option Population := none

end DocQuery
