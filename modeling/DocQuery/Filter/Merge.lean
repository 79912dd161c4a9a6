import DocQuery.Filter.Fragment

/-!
# Filters

A filter is a document with a condition for each field.

* `holdsOperators`: a document holds operators if its first key begins with a dollar sign.
* `Filter.merge`: operators on a field that has operators join them; everything else replaces what
  was asked of the field.
-/

namespace DocQuery

/-- Whether a document holds operators, and not entries to compare with. -/
def holdsOperators : Document → Bool
  | (c :: _, _) :: _ => c = '$'
  | _ => false

/-- A condition as it stands in a filter, after the operators that the field has already. -/
def Condition.after (before : Option Document) : Condition → Value
  | equals v => v
  | operators ops => .document ((before.map fun d => Dict.insertAll ops d).getD ops)

/-- The operators that a filter has on a field. -/
def Filter.operatorsOn? (filter : Document) (field : Text) : Option Document :=
  match Dict.get? field filter with
  | some (.document ops) => if holdsOperators ops then some ops else none
  | _ => none

/-- Adds a fragment to a filter. -/
def Filter.merge (filter : Document) (fragment : Fragment) : Document :=
  let before := Filter.operatorsOn? filter fragment.field
  Dict.insert fragment.field (fragment.condition.after before) filter

end DocQuery
