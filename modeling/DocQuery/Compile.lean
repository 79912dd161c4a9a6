import DocQuery.Argument.Reserved
import DocQuery.Filter.Merge
import DocQuery.Projection
import DocQuery.Query.Basic
import DocQuery.Settings
import DocQuery.Text.Percent

/-!
# Compiling query strings

A query string is decoded as a whole and split into arguments. Those that the settings leave out
have no effect. The population comes first, from the last list of relations, so that fields can be
routed into it wherever they stand; then each argument in order changes the query.

* `arguments`: the arguments of a query string that count.
* `requestedPopulation`: the population that arguments ask for.
* `Query.apply`: what one argument does to a query.
* `compile`: the query of a query string.
-/

namespace DocQuery

/-- Whether an argument assigns a value to a name that is left out. -/
def Settings.omits (settings : Settings) (argument : Text) : Bool :=
  settings.blacklist.any fun name => (name ++ ['=']).isPrefixOf argument

/-- The arguments of a query string. -/
def allArguments (query : Text) : List Text :=
  ((Percent.decode query).splitOn '&').filter fun argument => !argument.isEmpty

/-- The arguments of a query string that are not left out. -/
def arguments (settings : Settings) (query : Text) : List Text :=
  (allArguments query).filter fun argument => !settings.omits argument

/-- The list of relations that an argument asks for, if it does and the list is not empty. -/
def relationList? (argument : Text) : Option Text :=
  match Reserved.ofArgument? argument with
  | some (.populate, value) => if value.isEmpty then none else some value
  | _ => none

/-- The population that arguments ask for. The last list of relations counts. -/
def requestedPopulation (arguments : List Text) : Except QueryError Population :=
  match (arguments.filterMap relationList?).getLast? with
  | some value => Population.parse value
  | none => .ok []

/-- What one argument does to a query. -/
def Query.apply (casters : CasterTable) (q : Query) (argument : Text) : Except QueryError Query :=
  match Reserved.ofArgument? argument with
  | some (.sort, value) => .ok { q with sort := SortKey.parseList? value }
  | some (.limit, value) =>
    ((readBound value).mapError (.bound .limit)).map fun n => { q with limit := n }
  | some (.skip, value) =>
    ((readBound value).mapError (.bound .skip)).map fun n => { q with skip := n }
  | some (.fields, value) =>
    let (result, relations) := Projection.parse value (q.population.getD [])
    result.map fun projection =>
      { q with projection := projection, population := q.population.map fun _ => relations }
  | some (.text, value) =>
    (Fragment.search value).map fun fragment => { q with filter := Filter.merge q.filter fragment }
  | some (.populate, _) => .ok q
  | none =>
    (Fragment.parse casters argument).map fun fragment =>
      { q with filter := Filter.merge q.filter fragment }

/-- The query to start from: nothing is asked for but the population. -/
def startQuery (settings : Settings) (arguments : List Text) : Except QueryError Query :=
  if settings.populate then
    (requestedPopulation arguments).map fun relations => { population := some relations }
  else .ok {}

/-- The query that arguments make. -/
def compileArguments (settings : Settings) (arguments : List Text) : Except QueryError Query := do
  arguments.foldlM (Query.apply settings.casters) (← startQuery settings arguments)

/-- The query of a query string. -/
def compile (settings : Settings) (query : Text) : Except QueryError Query :=
  compileArguments settings (arguments settings query)

end DocQuery
