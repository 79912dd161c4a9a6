import DocQuery.Number.Decimal
import DocQuery.Text.Blank

/-!
# Bounds

A bound is a number of results to skip or to stop at.

* `Bound`: which of the two.
* `readBound`: the number of a value, or what is wrong with it.
-/

namespace DocQuery

/-- A limit on the results, at their start or at their end. -/
inductive Bound where
  | skip
  | limit
deriving DecidableEq, Repr

/-- What is wrong with the value of a bound. -/
inductive BoundFault where
  /-- It is no integer of 64 bits. -/
  | bad
  | negative
deriving DecidableEq, Repr

/-- The number of a value. An empty one is zero, and blanks around it do not matter. -/
def readBound (value : Text) : Except BoundFault Nat :=
  if value.isEmpty then .ok 0
  else
    match (integer? value.trim).bind toInt64? with
    | none => .error .bad
    | some n => if n.toInt < 0 then .error .negative else .ok n.toInt.toNat

end DocQuery
