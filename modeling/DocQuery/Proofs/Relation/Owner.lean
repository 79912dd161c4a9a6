import DocQuery.Proofs.Dict.Last
import DocQuery.Proofs.Projection.Tokens
import DocQuery.Proofs.Relation.Insertion

/-!
# Fields that are routed one after the other

A field belongs to the relation that its names lead to as far as they can. What is left of its names
is the key that it has there.

* `Population.Sets`: a relation at an address gets a value for a key, and nothing else changes.
* `Relation.Keeps`: no relation below has a say in a key.
* **`exists_route?_iff`**, **`setsOwned_of_route?`**: which fields are routed, and where they go.
* `Routing`: a population and the fields that were routed into it; a field that is not routed leaves
  both as they are.
* **`sound_run`**: after any calls, the fields of the relations are those that were routed.
* **`route_history`**: all this for the population of a list of paths.
-/

namespace DocQuery

/-- A key that no relation below has a say in: it has no dot, or what stands before its first dot is
not the name of one of them. -/
def Relation.Keeps (r : Relation) (key : Text) : Prop :=
  '.' ∉ key ∨ Population.firstName key ∉ Population.names r.children

namespace Population

/-- The relation at an address gets a value for a key of its projection. Everything else stays as it
is. -/
inductive Sets (key : Text) (v : Value) : List Text → Population → Population → Prop
  | here {r : Relation} {before : Population} (after : Population)
      (hbefore : NotNamed r.path before) :
      Sets key v [r.path] (before ++ r :: after) (before ++ r.project key v :: after)
  | deeper {first : Text} {address : List Text} (projection : Option Document)
      {before : Population} {children children' : List Relation} (after : Population)
      (hbefore : NotNamed first before) (hsets : Sets key v address children children') :
      Sets key v (first :: address) (before ++ .mk first projection children :: after)
        (before ++ .mk first projection children' :: after)

/-- A field is set in the relation that owns it: the names of an address and a key that the relation
there keeps make up the field. -/
def SetsOwned (field : Text) (v : Value) (relations relations' : Population) : Prop :=
  ∃ address r key, find? address relations = some r ∧
    field = ['.'].intercalate (address ++ [key]) ∧ r.Keeps key ∧
    Sets key v address relations relations'

/-! ## One field -/

theorem intercalate_pair (name key : Text) :
    ['.'].intercalate ([name] ++ [key]) = name ++ '.' :: key := by
  rw [intercalate_address, List.nil_append, List.intercalate_singleton]

/-- What the names of a field do not lead on to is a key that is kept. -/
theorem keeps_intercalate {name : Text} {rest : List Text} {r : Relation} (hname : '.' ∉ name)
    (hfree : rest ≠ [] → NotNamed name r.children) :
    r.Keeps (['.'].intercalate (name :: rest)) := by
  by_cases hrest : rest = []
  · subst hrest
    rw [List.intercalate_singleton]
    exact .inl hname
  · refine .inr ?_
    rw [List.intercalate_cons_of_ne_nil hrest, List.append_assoc, List.singleton_append,
      firstName_append hname]
    exact notNamed_iff.mp (hfree hrest)

theorem setsOwned_here {key : Text} (v : Value) {r : Relation} (hkeeps : r.Keeps key)
    {before : Population} (after : Population) (hbefore : NotNamed r.path before) :
    SetsOwned (r.path ++ '.' :: key) v (before ++ r :: after)
      (before ++ r.project key v :: after) :=
  ⟨[r.path], r, key, Relation.first?_append after hbefore rfl, (intercalate_pair r.path key).symm,
    hkeeps, .here after hbefore⟩

theorem SetsOwned.deeper {field first : Text} {v : Value} {children children' : List Relation}
    (h : SetsOwned field v children children') (projection : Option Document)
    {before : Population} (after : Population) (hbefore : NotNamed first before) :
    SetsOwned (first ++ '.' :: field) v (before ++ .mk first projection children :: after)
      (before ++ .mk first projection children' :: after) := by
  obtain ⟨address, r, key, hfind, rfl, hkeeps, hsets⟩ := h
  refine ⟨first :: address, r, key, ?_, (intercalate_address key).symm, hkeeps,
    .deeper projection after hbefore hsets⟩
  rw [find?_cons first (ne_nil_of_find? hfind), Relation.first?_append after hbefore rfl]
  exact hfind

theorem setsOwned_projectPath (v : Value) {names : List Text} (hnames : names ≠ [])
    (hdots : ∀ name ∈ names, '.' ∉ name) {r : Relation} {before : Population} (after : Population)
    (hbefore : NotNamed r.path before) :
    SetsOwned (r.path ++ '.' :: ['.'].intercalate names) v (before ++ r :: after)
      (before ++ projectPath v names r :: after) := by
  -- the relations around one below are others than those around the one above it
  revert hdots before after
  refine projectPath_induction v (motive := fun names r r' =>
    (∀ name ∈ names, '.' ∉ name) → ∀ {before : Population} (after : Population),
      NotNamed r.path before → SetsOwned (r.path ++ '.' :: ['.'].intercalate names) v
        (before ++ r :: after) (before ++ r' :: after)) ?_ ?_ hnames r
  · intro name rest r hfree hdots before after hbefore
    have hkeeps := keeps_intercalate (hdots name List.mem_cons_self) hfree
    exact setsOwned_here v hkeeps after hbefore
  · intro name rest path projection front child back hrest hfront hchild ih hdots before after
      hbefore
    subst hchild
    have hbelow := ih (fun n hn => hdots n (List.mem_cons_of_mem _ hn)) back hfront
    rw [List.intercalate_cons_of_ne_nil hrest, List.append_assoc, List.singleton_append]
    exact hbelow.deeper projection after hbefore

/-- **Where a field goes.** -/
theorem setsOwned_of_route? {field : Text} {v : Value} {relations relations' : Population}
    (h : route? field v relations = some relations') :
    SetsOwned field v relations relations' := by
  obtain ⟨name, names, before, r, after, hsplit, hnames, rfl, hbefore, rfl, rfl⟩ :=
    exists_of_route? h
  have hdots : ∀ n ∈ names, '.' ∉ n := fun n hn =>
    Text.not_mem_of_mem_splitOn (hsplit ▸ List.mem_cons_of_mem _ hn)
  have hfield : ['.'].intercalate (field.splitOn '.') = field := List.intercalate_splitOn '.'
  rw [hsplit, List.intercalate_cons_of_ne_nil hnames, List.append_assoc, List.singleton_append]
    at hfield
  rw [← hfield]
  exact setsOwned_projectPath v hnames hdots after hbefore

theorem dot_mem_of_route? {field : Text} {v : Value} {relations relations' : Population}
    (h : route? field v relations = some relations') : '.' ∈ field := by
  obtain ⟨address, r, key, hfind, rfl, -⟩ := setsOwned_of_route? h
  obtain ⟨name, address, rfl⟩ := List.exists_cons_of_ne_nil (ne_nil_of_find? hfind)
  rw [intercalate_address]
  simp

/-- **Which fields are routed:** those with a dot that begin with the name of a relation at the
top. -/
theorem exists_route?_iff {field : Text} {v : Value} {relations : Population} :
    (∃ relations', route? field v relations = some relations') ↔
      '.' ∈ field ∧ firstName field ∈ relations.names := by
  have hroot : '.' ∈ field → ((∃ relations', route? field v relations = some relations') ↔
      firstName field ∈ relations.names) := by
    intro hdot
    have hsome := isSome_route? hdot v relations
    obtain ⟨name, rest, hname, rfl, hsplit⟩ := Text.splitOn_eq_cons hdot
    rw [hsplit, List.headD_cons] at hsome
    rw [← Option.isSome_iff_exists, hsome, firstName_append hname, List.contains_iff_mem]
  constructor
  · rintro ⟨relations', h⟩
    have hdot := dot_mem_of_route? h
    exact ⟨hdot, (hroot hdot).mp ⟨relations', h⟩⟩
  · rintro ⟨hdot, hmem⟩
    exact (hroot hdot).mpr hmem

/-! ## Fields one after the other -/

/-- A population, and the fields that were routed into it with their signs, in order. -/
structure Routing where
  relations : Population
  routed : List (Text × Int32) := []

namespace Routing

/-- What is there after one more call to route a field. The population is the one that the call
leaves. -/
def call (h : Routing) (field : Text × Int32) : Routing :=
  match routeInPlace field.1 (.int32 field.2) h.relations with
  | (true, relations) => ⟨relations, h.routed ++ [field]⟩
  | (false, relations) => ⟨relations, h.routed⟩

/-- What is there after some calls. -/
def run (tree : Population) (calls : List (Text × Int32)) : Routing := calls.foldl call ⟨tree, []⟩

/-- The fields that were routed, each once and with its last sign. -/
def fields (h : Routing) : Document :=
  Dict.collapse (h.routed.map fun field => (field.1, .int32 field.2))

theorem run_concat (tree : Population) (calls : List (Text × Int32)) (field : Text × Int32) :
    run tree (calls ++ [field]) = (run tree calls).call field :=
  List.foldl_append

variable {h : Routing} {field : Text × Int32}

theorem call_of_some {relations : Population}
    (hroute : route? field.1 (.int32 field.2) h.relations = some relations) :
    h.call field = ⟨relations, h.routed ++ [field]⟩ := by
  rw [call, routeInPlace_of_some hroute]

/-- A field that is not routed leaves the population as it is. -/
theorem call_of_none (hroute : route? field.1 (.int32 field.2) h.relations = none) :
    h.call field = h := by
  rw [call, routeInPlace_of_none hroute]

/-- Up to order, a field that is routed takes the place of its earlier sign. -/
theorem fields_call {relations : Population}
    (hroute : route? field.1 (.int32 field.2) h.relations = some relations) :
    (h.call field).fields.Perm ((field.1, .int32 field.2) :: Dict.without field.1 h.fields) := by
  rw [call_of_some hroute, fields, fields, ← Dict.ofList_eq_collapse, ← Dict.ofList_eq_collapse,
    List.map_append, List.map_singleton, Dict.ofList_concat]
  exact Dict.insert_perm _ _ (Dict.nodup_keys_ofList _)

/-- The fields of the relations are those that were routed, and they stand where they belong. -/
structure Sound (h : Routing) : Prop where
  neat : Neat h.relations
  flat : (flat h.relations).Perm h.fields

theorem Sound.call (hsound : h.Sound) (field : Text × Int32) : (h.call field).Sound := by
  cases hroute : route? field.1 (.int32 field.2) h.relations with
  | none => rwa [call_of_none hroute]
  | some relations =>
    obtain ⟨hneat, hperm⟩ := flat_route? hroute hsound.neat
    have hfields := fields_call hroute
    rw [call_of_some hroute] at hfields ⊢
    exact ⟨hneat, hperm.trans (((Dict.without_perm field.1 hsound.flat).cons _).trans hfields.symm)⟩

/-- **After any calls the fields of the relations are those that were routed.** -/
theorem sound_run {tree : Population} (hneat : tree.Neat) (hbare : tree.bare = tree)
    (calls : List (Text × Int32)) : (run tree calls).Sound := by
  induction calls using List.reverseRecOn with
  | nil =>
    refine ⟨hneat, ?_⟩
    change (Population.flat tree).Perm []
    rw [← hbare, flat_bare]
  | append_singleton calls field ih =>
    rw [run_concat]
    exact ih.call field

end Routing

/-- **Routing fields.** After any calls to route fields into the population of a list of paths, a
field is routed just if it has a dot and what stands before the first one is the name of a relation
at the top. If it is not, nothing changes. If it is, its value is set in the relation that owns it,
and nothing else changes. The fields of all relations, under the names that lead to them, are those
that were routed, each with its last sign. -/
theorem route_history {value : Text} {tree : Population} (h : parse value = .ok tree)
    (calls : List (Text × Int32)) :
    (∀ field sign,
      ((∃ relations,
            route? field (.int32 sign) (Routing.run tree calls).relations = some relations) ↔
          '.' ∈ field ∧ firstName field ∈ names (Routing.run tree calls).relations) ∧
        (route? field (.int32 sign) (Routing.run tree calls).relations = none →
          Routing.run tree (calls ++ [(field, sign)]) = Routing.run tree calls) ∧
        ∀ relations,
          route? field (.int32 sign) (Routing.run tree calls).relations = some relations →
            Routing.run tree (calls ++ [(field, sign)]) =
                ⟨relations, (Routing.run tree calls).routed ++ [(field, sign)]⟩ ∧
              SetsOwned field (.int32 sign) (Routing.run tree calls).relations relations) ∧
      (flat (Routing.run tree calls).relations).Perm (Routing.run tree calls).fields := by
  refine ⟨fun field sign => ⟨exists_route?_iff, fun hnone => ?_, fun relations hroute => ?_⟩,
    (Routing.sound_run (neat_of_parse h) (bare_of_parse h) calls).flat⟩
  · rw [Routing.run_concat, Routing.call_of_none hnone]
  · rw [Routing.run_concat, Routing.call_of_some hroute]
    exact ⟨rfl, setsOwned_of_route? hroute⟩

/-- A list of paths with a name that comes twice and one that is empty. -/
def ownersValue : Text := "a.b..c,a,a,a.b,a.b.".toList

/-- Its population. -/
def ownersTree : Population := [
  .mk "a".toList none [.mk "b".toList none [.mk [] none [.leaf "c".toList]]],
  .leaf "a".toList]

/-- Fields that go down as far as names lead, one that is routed once more, and two that are not
routed. -/
def ownersCalls : List (Text × Int32) :=
  [("a.b.x.y".toList, 1), ("z.q".toList, 0), ("a..k".toList, 1), ("a.b..c.d".toList, 0),
    ("a.b.x.y".toList, 0), ("a".toList, 1)]

/-- What is there after these calls. -/
def ownersRouting : Routing where
  relations := [
    .mk "a".toList (some [(".k".toList, .int32 1)]) [
      .mk "b".toList (some [("x.y".toList, .int32 0)]) [
        .mk [] none [.mk "c".toList (some [("d".toList, .int32 0)]) []]]],
    .leaf "a".toList]
  routed := [("a.b.x.y".toList, 1), ("a..k".toList, 1), ("a.b..c.d".toList, 0),
    ("a.b.x.y".toList, 0)]

/-- The relations after one more field, which goes to the relation without a name. -/
def ownersResult : Population := [
  .mk "a".toList (some [(".k".toList, .int32 1)]) [
    .mk "b".toList (some [("x.y".toList, .int32 0)]) [
      .mk [] (some [("e".toList, .int32 7)]) [
        .mk "c".toList (some [("d".toList, .int32 0)]) []]]],
  .leaf "a".toList]

theorem route_history_owners :
    parse ownersValue = .ok ownersTree ∧ Routing.run ownersTree ownersCalls = ownersRouting ∧
      SetsOwned "a.b..e".toList (.int32 7) ownersRouting.relations ownersResult ∧
      Routing.run ownersTree (ownersCalls ++ [("b.x".toList, 1)]) = ownersRouting ∧
      (flat ownersRouting.relations).Perm [("a.b.x.y".toList, .int32 0),
        ("a..k".toList, .int32 1), ("a.b..c.d".toList, .int32 0)] := by
  have hparse : parse ownersValue = .ok ownersTree := rfl
  have hroute : route? "a.b..e".toList (.int32 7) (Routing.run ownersTree ownersCalls).relations =
      some ownersResult := rfl
  have hnone : route? "b.x".toList (.int32 1) (Routing.run ownersTree ownersCalls).relations =
      none := rfl
  obtain ⟨hcalls, hflat⟩ := route_history hparse ownersCalls
  exact ⟨hparse, rfl, ((hcalls _ _).2.2 _ hroute).2, (hcalls _ _).2.1 hnone, hflat⟩

end Population

end DocQuery
