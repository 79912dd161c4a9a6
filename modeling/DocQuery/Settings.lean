import DocQuery.Json.Parser
import DocQuery.Literal.Caster

/-!
# Settings

* `Settings`: what is allowed in a query, and the casters of its values.
* `Settings.ofJson?`: settings from a JSON text.
-/

namespace DocQuery

/-- How queries are compiled. -/
structure Settings where
  /-- The names of arguments to leave out. -/
  blacklist : List Text := []
  /-- Whether relations are expanded. -/
  populate : Bool := false
  casters : CasterTable := []

namespace Settings

/-- A list of names. -/
def readNames? : Json → Option (List Text)
  | .array items => items.mapM fun
    | .string text => text
    | _ => none
  | _ => none

/-- A truth value. -/
def readFlag? : Json → Option Bool
  | .bool b => some b
  | _ => none

/-- The value of an optional entry, which stands at most once. -/
def readEntry? {α : Type} (key : Text) (otherwise : α) (read? : Json → Option α)
    (entries : List (Text × Json)) : Option α :=
  match entries.filter fun entry => entry.1 = key with
  | [] => some otherwise
  | [(_, v)] => read? v
  | _ => none

/-- Entries whose keys all spell a text. -/
def spelledEntries? (entries : List (Option Text × Json)) : Option (List (Text × Json)) :=
  entries.mapM fun (key, v) => key.map (·, v)

/-- The settings of a JSON tree: an object, of which other entries do not matter, or an array with
up to two items, the names and the flag. -/
def ofTree? : Json → Option Settings
  | .object entries => do
    let entries ← spelledEntries? entries
    let blacklist ← readEntry? "blacklist".toList [] readNames? entries
    let populate ← readEntry? "populate".toList false readFlag? entries
    return ⟨blacklist, populate, []⟩
  | .array [] => some ⟨[], false, []⟩
  | .array [names] => (readNames? names).map fun blacklist => ⟨blacklist, false, []⟩
  | .array [names, flag] => do return ⟨← readNames? names, ← readFlag? flag, []⟩
  | _ => none

/-- The settings of a JSON text. -/
def ofJson? (text : Text) : Option Settings := (Json.parse? text).bind ofTree?

end Settings

end DocQuery
