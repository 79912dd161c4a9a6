import DocQuery.Text.Basic

/-!
# Comparisons

* `Comparison`: the ways in which an argument compares a field with a value.
* `Comparison.token`, `Comparison.keyword`: how it is written in an argument and in a filter.
* `Comparison.resolve?`: the comparison that an argument makes.
* `inKeyword`, `notInKeyword`, `existsKeyword`, `textKeyword`, `searchKeyword`: the other keywords
  of filters.
-/

namespace DocQuery

/-! ## Keywords of filters -/

/-- Membership in a list. -/
def inKeyword : Text := "$in".toList

/-- No membership in a list. -/
def notInKeyword : Text := "$nin".toList

/-- Presence of a field. -/
def existsKeyword : Text := "$exists".toList

/-- Search in the indexed text. -/
def textKeyword : Text := "$text".toList

/-- The phrase to search for. -/
def searchKeyword : Text := "$search".toList

/-! ## Comparisons -/

/-- A way to compare a field with a value. `absent` is written before a field and asks that it is
not there. -/
inductive Comparison where
  | atMost
  | atLeast
  | differs
  | equals
  | above
  | below
  | absent
deriving DecidableEq, Repr

namespace Comparison

/-- All comparisons in the order in which they are looked for. Those of two characters come first,
because they contain others. -/
def all : List Comparison := [atMost, atLeast, differs, equals, above, below, absent]

/-- How a comparison is written in an argument. -/
def token : Comparison → Text
  | atMost => ['<', '=']
  | atLeast => ['>', '=']
  | differs => ['!', '=']
  | equals => ['=']
  | above => ['>']
  | below => ['<']
  | absent => ['!']

/-- How a comparison is written in a filter. -/
def keyword : Comparison → Text
  | atMost => "$lte".toList
  | atLeast => "$gte".toList
  | differs => "$ne".toList
  | equals => "$eq".toList
  | above => "$gt".toList
  | below => "$lt".toList
  | absent => existsKeyword

/-- The first comparison whose token occurs anywhere in an argument. -/
def resolve? (argument : Text) : Option Comparison := all.find? fun c => Text.has c.token argument

end Comparison

end DocQuery
