import DocQuery.Number.Decimal

/-!
# JSON

* `Json`: the tree that a JSON text writes. Numbers stay as written and objects keep all their
  entries in order.
* `textOfUnits?`: the text that a string's code units spell. An escape can name half of a
  surrogate pair; two halves that meet are one character, and a half that stands alone spells
  nothing, which makes the string `none` in the tree.
-/

namespace DocQuery

/-- The tree that a JSON text writes. -/
inductive Json where
  | null
  | bool (b : Bool)
  | number (negative : Bool) (d : Decimal)
  | string (text : Option Text)
  | array (items : List Json)
  | object (entries : List (Option Text × Json))

instance : Inhabited Json := ⟨.null⟩

/-- Whether a code unit is the first half of a surrogate pair. -/
def isHighHalf (unit : Nat) : Bool := 0xD800 ≤ unit && unit < 0xDC00

/-- Whether a code unit is the second half of a surrogate pair. -/
def isLowHalf (unit : Nat) : Bool := 0xDC00 ≤ unit && unit < 0xE000

/-- The character that two halves of a surrogate pair make. -/
def pairChar (high low : Nat) : Char :=
  Char.ofNat (0x10000 + (high - 0xD800) * 0x400 + (low - 0xDC00))

/-- The text that code units spell, if no half of a surrogate pair stands alone. -/
def textOfUnits? : List Nat → Option Text
  | [] => some []
  | [unit] => if isHighHalf unit || isLowHalf unit then none else some [Char.ofNat unit]
  | unit :: next :: rest =>
    if isHighHalf unit then
      if isLowHalf next then (textOfUnits? rest).map (pairChar unit next :: ·) else none
    else if isLowHalf unit then none
    else (textOfUnits? (next :: rest)).map (Char.ofNat unit :: ·)

end DocQuery
