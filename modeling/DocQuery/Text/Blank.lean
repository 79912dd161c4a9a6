import DocQuery.Text.Basic
import DocQuery.Text.Range

/-!
# Blank characters

* `isBlank`: the characters with the Unicode property White_Space.
* `Text.trim`: a text without the blanks at its two ends.
-/

namespace DocQuery

/-- The code points with the property White_Space, as ranges with both ends. -/
def blankRanges : List (Nat × Nat) :=
  [(0x09, 0x0D), (0x20, 0x20), (0x85, 0x85), (0xA0, 0xA0), (0x1680, 0x1680), (0x2000, 0x200A),
    (0x2028, 0x2029), (0x202F, 0x202F), (0x205F, 0x205F), (0x3000, 0x3000)]

/-- Whether a character has the property White_Space. -/
def isBlank (c : Char) : Bool := inRanges blankRanges c

example : areAscending blankRanges = true := by decide

/-- The text without its leading blanks. -/
def Text.trimLeft (text : Text) : Text := text.dropWhile isBlank

/-- The text without its trailing blanks. -/
def Text.trimRight (text : Text) : Text := (text.reverse.dropWhile isBlank).reverse

/-- The text without the blanks at its two ends. -/
def Text.trim (text : Text) : Text := text.trimLeft.trimRight

end DocQuery
