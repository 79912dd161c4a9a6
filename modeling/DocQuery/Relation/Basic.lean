import DocQuery.Value.Basic

/-!
# Relations

A relation is expanded alongside a result. It has a name, a projection of its own and relations
below it; those at the top form a population.

* `Relation`, `Population`.
* `changeFirst`: a call on the first relation of a name, which can change it.
* `Population.find?`: the relation at an address, which is a list of names from the top down.
-/

namespace DocQuery

/-- A relation to expand. -/
inductive Relation where
  | mk (path : Text) (projection : Option Document) (children : List Relation)

/-- The relations at the top. -/
abbrev Population := List Relation

namespace Relation

/-- The name. -/
def path : Relation → Text
  | mk path _ _ => path

/-- The fields to include or exclude, if any are asked for. -/
def projection : Relation → Option Document
  | mk _ projection _ => projection

/-- The relations below. -/
def children : Relation → List Relation
  | mk _ _ children => children

/-- A relation with nothing below it and no projection. -/
def leaf (path : Text) : Relation := mk path none []

/-- The first relation of a name. -/
def first? (name : Text) (relations : List Relation) : Option Relation :=
  relations.find? fun r => r.path = name

/-- The first relation of a name below. -/
def child? (name : Text) (r : Relation) : Option Relation := first? name r.children

/-- The relation with other relations below it. -/
def withChildren (children : List Relation) (r : Relation) : Relation :=
  mk r.path r.projection children

/-- The relation with a field of its projection set. -/
def project (key : Text) (v : Value) (r : Relation) : Relation :=
  mk r.path (some (Dict.insert key v (r.projection.getD []))) r.children

/-- A call on the first relation of a name, which can change it. The result of the call comes with
the relations after it; there is none if no relation has the name. -/
def changeFirst {α : Type} (name : Text) (call : Relation → α × Relation) :
    List Relation → Option α × List Relation
  | [] => (none, [])
  | r :: rest =>
    if r.path = name then
      let (result, r) := call r
      (some result, r :: rest)
    else
      let (result, rest) := changeFirst name call rest
      (result, r :: rest)

end Relation

namespace Population

/-- The relation at an address. -/
def find? : List Text → Population → Option Relation
  | [], _ => none
  | [name], relations => Relation.first? name relations
  | name :: address, relations =>
    (Relation.first? name relations).bind fun r => find? address r.children

end Population

end DocQuery
