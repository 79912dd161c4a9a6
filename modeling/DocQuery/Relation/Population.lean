import DocQuery.Error
import DocQuery.Order.Stable
import DocQuery.Relation.Basic

/-!
# Populations

A dotted path names a relation by the names that lead to it. At every level the first relation of a
name counts.

Two calls change a population in place. Each comes back with its result and the population after it,
also where it fails.

* `Population.insertInPlace`, `Population.insert`: adds the relation of a path below the one that
  the path leads through.
* `Population.parse`: the population of a list of paths, those with fewer dots first.
* `Population.routeInPlace`, `Population.route?`: sets a dotted field in the projection of the
  relation that owns it.
-/

namespace DocQuery.Population

/-! ## Adding relations -/

/-- Adds a relation below another, name by name. The result is whether every name but the last one
leads to a relation. -/
def attach : List Text → Relation → Bool × Relation
  | [], r => (false, r)
  | [name], r => (true, r.withChildren (r.children ++ [.leaf name]))
  | name :: rest, r =>
    let (result, below) := Relation.changeFirst name (attach rest) r.children
    (result.getD false, r.withChildren below)

/-- What adding the relation of a path comes to: none if no relation at the top has its first name,
or else whether it is attached below that one. -/
def attached (path : Text) : Option Bool → Except QueryError Unit
  | none => .error (.missingRelation path)
  | some false => .error (.missingSubRelation path)
  | some true => .ok ()

/-- Adds a relation by its path. Every relation that the path leads through has to be there. -/
def insertInPlace (path : Text) (relations : Population) : Except QueryError Unit × Population :=
  match path.splitOn '.' with
  | name :: next :: rest =>
    let (result, relations) := Relation.changeFirst name (attach (next :: rest)) relations
    (attached path result, relations)
  | _ => (.ok (), relations ++ [.leaf path])

/-- The population with the relation of a path. -/
def insert (path : Text) (relations : Population) : Except QueryError Population :=
  let (result, relations) := insertInPlace path relations
  result.map fun _ => relations

/-- The number of dots of a path. -/
def depth (path : Text) : Nat := path.count '.'

/-- The paths of a list between commas, empty ones left out. -/
def entries (value : Text) : List Text := (value.splitOn ',').filter fun path => !path.isEmpty

/-- The population of a list of paths. Paths with fewer dots are added first. -/
def parse (value : Text) : Except QueryError Population :=
  (sortOn depth (entries value)).foldlM (fun relations path => insert path relations) []

/-! ## Routing fields -/

/-- Sets a field, name by name, in the relation that owns it: while a name is followed by others
and is that of a relation below, it leads there. -/
def projectPath (v : Value) : List Text → Relation → Relation
  | [], r => r
  | [name], r => r.project name v
  | name :: rest, r =>
    match Relation.changeFirst name (fun child => ((), projectPath v rest child)) r.children with
    | (some (), below) => r.withChildren below
    | (none, below) => (r.withChildren below).project (['.'].intercalate (name :: rest)) v

/-- Sets a dotted field in the relation that owns it, if the first name is that of a relation at
the top. The result is whether it is. -/
def routeInPlace (field : Text) (v : Value) (relations : Population) : Bool × Population :=
  match field.splitOn '.' with
  | name :: next :: rest =>
    let (result, relations) :=
      Relation.changeFirst name (fun r => ((), projectPath v (next :: rest) r)) relations
    (result.isSome, relations)
  | _ => (false, relations)

/-- The population with a dotted field, if the first name is that of a relation at the top. -/
def route? (field : Text) (v : Value) (relations : Population) : Option Population :=
  let (routed, relations) := routeInPlace field v relations
  if routed then some relations else none

end DocQuery.Population
