import DocQuery.Argument.Bound
import DocQuery.Argument.Comparison

/-!
# Errors

* `QueryError`: why a query is refused.
* `QueryError.message`: what is said about it.
-/

namespace DocQuery

/-- What is wrong with a literal in a projection. -/
inductive LiteralFault where
  /-- It is no JSON. -/
  | malformed
  /-- It has no entries. -/
  | empty
  /-- An integer in it is too large for a value. -/
  | tooLarge
deriving DecidableEq, Repr

/-- Why a query is refused. -/
inductive QueryError where
  | bound (bound : Bound) (fault : BoundFault)
  /-- A list is compared in a way that is not defined for lists. -/
  | listComparison (field : Text) (comparison : Comparison)
  /-- The comparison of an argument occurs in it more than once. -/
  | ambiguous (argument : Text) (comparison : Comparison)
  | emptySearch
  /-- A caster refused the inner text of a value. -/
  | casterFailed (value caster cause : Text)
  | literal (token : Text) (fault : LiteralFault)
  /-- The first relation of a path is not there. -/
  | missingRelation (path : Text)
  /-- A later relation that a path leads through is not there. -/
  | missingSubRelation (path : Text)
deriving DecidableEq, Repr

/-- The word for a fault of a bound. -/
def BoundFault.word : BoundFault → Text
  | bad => "Bad".toList
  | negative => "Negative".toList

/-- The word for a bound. -/
def Bound.word : Bound → Text
  | skip => "skip".toList
  | limit => "limit".toList

/-- What is said about an error. -/
def QueryError.message : QueryError → Text
  | bound b fault => fault.word ++ ' ' :: b.word ++ " value".toList
  | listComparison _ _ => "List operator not found".toList
  | ambiguous argument comparison =>
    "Fail to split filter ".toList ++ argument ++ " with operator ".toList ++ comparison.token
  | emptySearch => "Bad $text value".toList
  | casterFailed value caster _ =>
    "Fail to cast ".toList ++ value ++ " with caster ".toList ++ caster
  | literal _ _ => "Fail to decode projection".toList
  | missingRelation _ => "Fail to find logical population item".toList
  | missingSubRelation _ => "Fail to find logical sub population item".toList

end DocQuery
