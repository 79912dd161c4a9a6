/-!
# Ranges of code points

* `inRanges`: whether a character lies in one of some ranges.
* `areAscending`: the ranges of a table are in order and apart from each other.
-/

namespace DocQuery

/-- Whether a character lies in one of some ranges, each with both its ends. -/
def inRanges (ranges : List (Nat × Nat)) (c : Char) : Bool :=
  ranges.any fun (first, last) => first ≤ c.toNat && c.toNat ≤ last

/-- Whether no range is empty and each one ends before the next begins. -/
def areAscending : List (Nat × Nat) → Bool
  | [] => true
  | [(first, last)] => first ≤ last
  | (first, last) :: next :: rest =>
    first ≤ last && last < next.1 && areAscending (next :: rest)

end DocQuery
