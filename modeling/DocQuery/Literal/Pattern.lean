import DocQuery.Order.Stable
import DocQuery.Text.Basic

/-!
# Pattern literals

A pattern literal is a pattern between slashes with flags behind it: `/^a\/b[/]/gi`.

* `Pattern.scan?`: the pattern up to its closing slash. A slash behind a backslash or inside
  brackets does not close it.
* `Pattern.ofFlags?`: the options that flags ask for, in ascending order.
* `Pattern.read?`: the pattern and the options of a literal.
-/

namespace DocQuery

/-- A regular expression with its options. -/
structure Pattern where
  source : Text
  options : Text
deriving DecidableEq, Repr

namespace Pattern

/-- Takes a pattern and the slash that closes it from the front of a text, inside brackets or
not. No line ends in a pattern. -/
def scan? : Bool → Text → Option (Text × Text)
  | _, [] => none
  | inClass, '\\' :: rest =>
    match rest with
    | [] => none
    | c :: rest =>
      if c = '\n' then none
      else (scan? inClass rest).map fun (source, rest) => ('\\' :: c :: source, rest)
  | inClass, c :: rest =>
    if c = '\r' || c = '\n' then none
    else if c = '/' && !inClass then some ([], rest)
    else
      let inside := if inClass then c ≠ ']' else c = '['
      (scan? inside rest).map fun (source, rest) => (c :: source, rest)

/-- The flags that a literal can have. -/
def isFlag (c : Char) : Bool := c = 'g' || c = 'i' || c = 'm'

/-- The options that flags ask for, each flag at most once. To match everywhere, `g`, is no
option. -/
def ofFlags? (flags : Text) : Option Text :=
  if flags.all isFlag && flags.Nodup then some (sortOn Char.toNat (flags.filter (· ≠ 'g')))
  else none

/-- Whether a pattern is not empty and does not begin with a sign of repetition. -/
def startsWell : Text → Bool
  | [] => false
  | c :: _ => !(c = '*' || c = '+' || c = '?')

/-- The pattern and the options of a literal. -/
def read? : Text → Option Pattern
  | '/' :: text =>
    match scan? false text with
    | some (source, flags) =>
      if startsWell source then (ofFlags? flags).map fun options => ⟨source, options⟩ else none
    | none => none
  | _ => none

end Pattern

end DocQuery
