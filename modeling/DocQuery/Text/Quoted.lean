import DocQuery.Text.Hex
import DocQuery.Text.Printable

/-!
# Quoted text

A text for display: between double quotes, with a backslash before quotes and backslashes, a letter
for each common control character and the number of every other character that does not show by
itself.

* `Text.quoted`: one text.
* `Text.quotedList`: several, between brackets.
-/

namespace DocQuery

/-- How one character is displayed between quotes. -/
def quotedChar (c : Char) : Text :=
  if c = '"' || c = '\\' then ['\\', c]
  else if c = '\t' then ['\\', 't']
  else if c = '\n' then ['\\', 'n']
  else if c = '\r' then ['\\', 'r']
  else if c = '\x00' then ['\\', '0']
  else if isPrintable c then [c]
  else ['\\', 'u', '{'] ++ hexText 1 c.toNat ++ ['}']

/-- The text between double quotes. -/
def Text.quoted (text : Text) : Text := '"' :: text.flatMap quotedChar ++ ['"']

/-- The texts between brackets, each quoted, with a comma and a space between them. -/
def Text.quotedList (texts : List Text) : Text :=
  '[' :: [',', ' '].intercalate (texts.map Text.quoted) ++ [']']

end DocQuery
