import DocQuery.Compile
import DocQuery.Proofs.Projection.Tokens

/-!
# Runs over arguments

What a list of arguments makes of a query, part by part, and when it fails.

* `Reserved.values`, `fragmentOf?`, `argumentError?`: what an argument is by itself.
* `fragmentOf?_eq_ok`, `exists_of_mem_fragments`: where the fragments of arguments come from.
* **`apply_eq_error`**: an argument fails by itself; the query that it changes has no say but
  through the names of the relations at the top.
* `Query.After`: each part of a query after a run, said through the arguments that bear on it.
* **`after_of_foldlM`**, **`foldlM_eq_error`**: a run ends in such a query, or with the error of
  its first argument that has one.
* `startPopulation`, **`after_of_compileArguments`**, **`compileArguments_eq_error`**,
  `exists_compileArguments_iff`: the same for a run from the query that the settings and the lists
  of relations give.
-/

namespace DocQuery

open Outcome

/-! ## Single arguments -/

/-- The reserved name of an argument, if it has one. -/
def Reserved.name? (argument : Text) : Option Reserved := (ofArgument? argument).map Prod.fst

/-- The value that an argument gives to a reserved name. -/
def Reserved.value? (name : Reserved) (argument : Text) : Option Text :=
  match ofArgument? argument with
  | some (other, value) => if other = name then some value else none
  | none => none

/-- The values that arguments give to a reserved name. -/
def Reserved.values (name : Reserved) (arguments : List Text) : List Text :=
  arguments.filterMap name.value?

/-- The fragment that an argument adds to the filter, or why it does not, if it is one for the
filter. -/
def fragmentOf? (casters : CasterTable) (argument : Text) : Option (Except QueryError Fragment) :=
  match Reserved.ofArgument? argument with
  | some (.text, value) => some (Fragment.search value)
  | some _ => none
  | none => some (Fragment.parse casters argument)

/-- The error of an argument by itself, where the relations at the top have the given names. -/
def argumentError? (casters : CasterTable) (roots : List Text) (argument : Text) :
    Option QueryError :=
  match Reserved.ofArgument? argument with
  | some (.sort, _) => none
  | some (.limit, value) => error? ((readBound value).mapError (.bound .limit))
  | some (.skip, value) => error? ((readBound value).mapError (.bound .skip))
  | some (.fields, value) =>
    (Projection.tokens value).findSome? (Projection.tokenError? roots)
  | some (.text, value) => error? (Fragment.search value)
  | some (.populate, _) => none
  | none => error? (Fragment.parse casters argument)

theorem Reserved.values_append (name : Reserved) (arguments others : List Text) :
    name.values (arguments ++ others) = name.values arguments ++ name.values others :=
  List.filterMap_append

/-- A fragment is that of a search, or is read from the argument itself. -/
theorem fragmentOf?_eq_ok {casters : CasterTable} {argument : Text} {fragment : Fragment}
    (h : fragmentOf? casters argument = some (.ok fragment)) :
    (∃ phrase, Fragment.search phrase = .ok fragment) ∨
      Fragment.parse casters argument = .ok fragment := by
  unfold fragmentOf? at h
  split at h
  · exact .inl ⟨_, Option.some.inj h⟩
  · cases h
  · exact .inr (Option.some.inj h)

theorem exists_of_mem_fragments {casters : CasterTable} {arguments : List Text}
    {fragments : List Fragment}
    (h : arguments.filterMap (fragmentOf? casters) = fragments.map .ok) {fragment : Fragment}
    (hfragment : fragment ∈ fragments) :
    ∃ argument ∈ arguments, fragmentOf? casters argument = some (.ok fragment) := by
  have hmem : Except.ok fragment ∈ arguments.filterMap (fragmentOf? casters) := by
    rw [h]
    exact List.mem_map_of_mem hfragment
  exact List.mem_filterMap.mp hmem

/-- **An argument fails by itself.** -/
theorem apply_eq_error {casters : CasterTable} {q : Query} {argument : Text} {e : QueryError} :
    Query.apply casters q argument = .error e ↔
      argumentError? casters (q.population.getD []).names argument = some e := by
  unfold Query.apply argumentError?
  rcases Reserved.ofArgument? argument with _ | ⟨name, value⟩
  · simp only [map_eq_error, error?_eq_some]
  · cases name with
    | sort => simp
    | limit => simp only [map_eq_error, error?_eq_some]
    | skip => simp only [map_eq_error, error?_eq_some]
    | fields => simp only [map_eq_error, Projection.parse_fst_eq_error]
    | text => simp only [map_eq_error, error?_eq_some]
    | populate => simp

/-! ## Queries after a run -/

/-- What a query is after a run over arguments that began with another query. -/
structure Query.After (casters : CasterTable) (q : Query) (arguments : List Text) (q' : Query) :
    Prop where
  sort : q'.sort = ((Reserved.sort.values arguments).getLast?.map SortKey.parseList?).getD q.sort
  skip : ((Reserved.skip.values arguments).getLast?.map readBound).getD (.ok q.skip) = .ok q'.skip
  limit :
    ((Reserved.limit.values arguments).getLast?.map readBound).getD (.ok q.limit) = .ok q'.limit
  projection :
    ((Reserved.fields.values arguments).getLast?.map fun value =>
      (Projection.parse value (q.population.getD [])).1).getD (.ok q.projection) =
        .ok q'.projection
  population :
    q'.population = q.population.map
      (((Reserved.fields.values arguments).flatMap Projection.tokens).foldl Projection.routeToken)
  filter : ∃ fragments : List Fragment,
    arguments.filterMap (fragmentOf? casters) = fragments.map .ok ∧
      q'.filter = fragments.foldl Filter.merge q.filter

namespace Query.After

variable {casters : CasterTable} {q q' q'' : Query}

theorem nil : After casters q [] q where
  sort := rfl
  skip := rfl
  limit := rfl
  projection := rfl
  population := by simp [Reserved.values]
  filter := ⟨[], rfl, rfl⟩

theorem names {arguments : List Text} (h : After casters q arguments q') :
    (q'.population.getD []).names = (q.population.getD []).names := by
  rw [h.population]
  cases q.population with
  | none => rfl
  | some relations => exact Projection.names_foldl_routeToken _ relations

/-- The last one of two lists is the last one of the second, if it has any. -/
theorem getD_getLast?_append {α β : Type} (l l' : List α) (f : α → β) (b : β) :
    ((l ++ l').getLast?.map f).getD b =
      (l'.getLast?.map f).getD ((l.getLast?.map f).getD b) := by
  rw [List.getLast?_append]
  cases l'.getLast? <;> rfl

theorem append {arguments others : List Text} (h : After casters q arguments q')
    (h' : After casters q' others q'') : After casters q (arguments ++ others) q'' where
  sort := by rw [Reserved.values_append, getD_getLast?_append, ← h.sort, h'.sort]
  skip := by rw [Reserved.values_append, getD_getLast?_append, h.skip, h'.skip]
  limit := by rw [Reserved.values_append, getD_getLast?_append, h.limit, h'.limit]
  projection := by
    -- routing keeps the names at the top, and a projection sees no more of a population
    have hfst : ∀ value, (Projection.parse value (q'.population.getD [])).1 =
        (Projection.parse value (q.population.getD [])).1 := by
      intro value
      rw [Projection.parse_fst, Projection.parse_fst, h.names]
    rw [Reserved.values_append, getD_getLast?_append, h.projection, ← h'.projection]
    simp only [hfst]
  population := by
    rw [h'.population, h.population, Option.map_map, Reserved.values_append, List.flatMap_append]
    congr 1
    funext relations
    rw [List.foldl_append]
    rfl
  filter := by
    obtain ⟨fragments, hfragments, hfilter⟩ := h.filter
    obtain ⟨fragments', hfragments', hfilter'⟩ := h'.filter
    refine ⟨fragments ++ fragments', ?_, ?_⟩
    · rw [List.filterMap_append, hfragments, hfragments', List.map_append]
    · rw [hfilter', hfilter, List.foldl_append]

end Query.After

theorem after_of_apply {casters : CasterTable} {q q' : Query} {argument : Text}
    (h : Query.apply casters q argument = .ok q') : q.After casters [argument] q' := by
  unfold Query.apply at h
  rcases harg : Reserved.ofArgument? argument with _ | ⟨name, value⟩
  · simp only [harg] at h
    obtain ⟨fragment, hfragment, rfl⟩ := map_eq_ok.mp h
    constructor
    case filter => exact ⟨[fragment], by simp [fragmentOf?, harg, hfragment], rfl⟩
    all_goals simp [Reserved.values, Reserved.value?, harg]
  · cases name with
    | sort =>
      simp only [harg, Except.ok.injEq] at h
      subst h
      constructor <;> simp [Reserved.values, Reserved.value?, fragmentOf?, harg]
    | limit =>
      simp only [harg] at h
      obtain ⟨n, hn, rfl⟩ := map_eq_ok.mp h
      have hbound := mapError_eq_ok.mp hn
      constructor <;> simp [Reserved.values, Reserved.value?, fragmentOf?, harg, hbound]
    | skip =>
      simp only [harg] at h
      obtain ⟨n, hn, rfl⟩ := map_eq_ok.mp h
      have hbound := mapError_eq_ok.mp hn
      constructor <;> simp [Reserved.values, Reserved.value?, fragmentOf?, harg, hbound]
    | fields =>
      simp only [harg] at h
      obtain ⟨projection, hprojection, rfl⟩ := map_eq_ok.mp h
      have hrouted := Projection.parse_snd hprojection
      constructor
      case population =>
        rw [hrouted]
        cases q.population <;> simp [Reserved.values, Reserved.value?, harg]
      all_goals simp [Reserved.values, Reserved.value?, fragmentOf?, harg, hprojection]
    | text =>
      simp only [harg] at h
      obtain ⟨fragment, hfragment, rfl⟩ := map_eq_ok.mp h
      constructor
      case filter => exact ⟨[fragment], by simp [fragmentOf?, harg, hfragment], rfl⟩
      all_goals simp [Reserved.values, Reserved.value?, harg]
    | populate =>
      simp only [harg, Except.ok.injEq] at h
      subst h
      constructor <;> simp [Reserved.values, Reserved.value?, fragmentOf?, harg]

/-- **What a run makes of a query.** -/
theorem after_of_foldlM {casters : CasterTable} {q q' : Query} {arguments : List Text}
    (h : arguments.foldlM (Query.apply casters) q = .ok q') : q.After casters arguments q' := by
  induction arguments generalizing q with
  | nil =>
    cases h
    exact .nil
  | cons argument arguments ih =>
    rw [List.foldlM_cons, bind_eq_ok] at h
    obtain ⟨q₁, hstep, hrest⟩ := h
    exact (after_of_apply hstep).append (ih hrest)

/-- **A run fails with the error of its first argument that has one.** -/
theorem foldlM_eq_error {casters : CasterTable} {q : Query} {arguments : List Text}
    {e : QueryError} :
    arguments.foldlM (Query.apply casters) q = .error e ↔
      arguments.findSome? (argumentError? casters (q.population.getD []).names) = some e := by
  induction arguments generalizing q with
  | nil => simp [pure, Except.pure]
  | cons argument arguments ih =>
    rw [List.foldlM_cons, List.findSome?_cons]
    cases hstep : Query.apply casters q argument with
    | error e' => simp [apply_eq_error.mp hstep, bind, Except.bind]
    | ok q' =>
      have hnone : argumentError? casters (q.population.getD []).names argument = none := by
        rw [Option.eq_none_iff_forall_ne_some]
        intro e' he'
        rw [apply_eq_error.mpr he'] at hstep
        cases hstep
      rw [hnone, ← (after_of_apply hstep).names]
      exact ih

/-! ## Lists of relations -/

theorem apply_populate {casters : CasterTable} {q : Query} {argument : Text}
    (h : Reserved.name? argument = some .populate) : Query.apply casters q argument = .ok q := by
  obtain ⟨⟨name, value⟩, harg, rfl⟩ := Option.map_eq_some_iff.mp h
  rw [Query.apply, harg]

/-- In a run, lists of relations do nothing. -/
theorem foldlM_filter_populate (casters : CasterTable) (q : Query) (arguments : List Text) :
    (arguments.filter fun a => Reserved.name? a ≠ some .populate).foldlM (Query.apply casters) q =
      arguments.foldlM (Query.apply casters) q := by
  induction arguments generalizing q with
  | nil => rfl
  | cons argument arguments ih =>
    by_cases h : Reserved.name? argument = some .populate
    · rw [List.filter_cons_of_neg (by simp [h]), List.foldlM_cons, apply_populate h, ih]
      rfl
    · rw [List.filter_cons_of_pos (by simp [h]), List.foldlM_cons, List.foldlM_cons]
      simp only [ih]

theorem filterMap_relationList? (arguments : List Text) :
    arguments.filterMap relationList? =
      (Reserved.populate.values arguments).filter fun value => !value.isEmpty := by
  rw [Reserved.values, List.filter_filterMap]
  congr 1
  funext argument
  unfold relationList? Reserved.value?
  rcases Reserved.ofArgument? argument with _ | ⟨name, value⟩
  · rfl
  · cases name <;> cases hvalue : value.isEmpty <;> simp [hvalue, Option.filter]

theorem requestedPopulation_congr {arguments arguments' : List Text}
    (h : Reserved.populate.values arguments = Reserved.populate.values arguments') :
    requestedPopulation arguments = requestedPopulation arguments' := by
  rw [requestedPopulation, requestedPopulation, filterMap_relationList?, filterMap_relationList?, h]

/-! ## Compiling -/

/-- The population to start from: the one that is asked for, where relations are expanded. -/
def startPopulation (settings : Settings) (arguments : List Text) :
    Except QueryError Population :=
  if settings.populate then requestedPopulation arguments else .ok []

theorem startPopulation_eq_ok {settings : Settings} {arguments : List Text} {tree : Population}
    (h : startPopulation settings arguments = .ok tree) :
    tree = [] ∨ ∃ value, Population.parse value = .ok tree := by
  unfold startPopulation requestedPopulation at h
  split at h
  · split at h
    · exact .inr ⟨_, h⟩
    · exact .inl (Except.ok.inj h).symm
  · exact .inl (Except.ok.inj h).symm

theorem startPopulation_eq_nil {settings : Settings} {arguments : List Text} {tree : Population}
    (hpopulate : settings.populate = false) (h : startPopulation settings arguments = .ok tree) :
    tree = [] := by
  rw [startPopulation, hpopulate] at h
  exact (Except.ok.inj h).symm

/-- The query to start from with a population. -/
def Query.start (settings : Settings) (tree : Population) : Query :=
  { population := if settings.populate then some tree else none }

theorem startQuery_eq (settings : Settings) (arguments : List Text) :
    startQuery settings arguments =
      (startPopulation settings arguments).map (Query.start settings) := by
  unfold startQuery startPopulation
  cases h : settings.populate with
  | false =>
    have hstart : Query.start settings [] = {} := by rw [Query.start, h]; rfl
    simp [Except.map, hstart]
  | true =>
    have hstart : Query.start settings = fun relations => { population := some relations } := by
      funext relations
      rw [Query.start, h]
      rfl
    rw [hstart]
    rfl

theorem names_start {settings : Settings} {arguments : List Text} {tree : Population}
    (h : startPopulation settings arguments = .ok tree) :
    ((Query.start settings tree).population.getD []).names = tree.names := by
  unfold Query.start
  cases hpopulate : settings.populate with
  | false =>
    rw [startPopulation_eq_nil hpopulate h]
    rfl
  | true => rfl

/-- **What a successful run from the start makes.** -/
theorem after_of_compileArguments {settings : Settings} {arguments : List Text} {q : Query}
    (h : compileArguments settings arguments = .ok q) :
    ∃ tree, startPopulation settings arguments = .ok tree ∧
      (Query.start settings tree).After settings.casters arguments q := by
  rw [compileArguments, startQuery_eq, bind_eq_ok] at h
  obtain ⟨q₀, hstart, hrun⟩ := h
  obtain ⟨tree, htree, rfl⟩ := map_eq_ok.mp hstart
  exact ⟨tree, htree, after_of_foldlM hrun⟩

/-- **When a run from the start fails.** -/
theorem compileArguments_eq_error {settings : Settings} {arguments : List Text} {e : QueryError} :
    compileArguments settings arguments = .error e ↔
      startPopulation settings arguments = .error e ∨
        ∃ tree, startPopulation settings arguments = .ok tree ∧
          arguments.findSome? (argumentError? settings.casters tree.names) = some e := by
  rw [compileArguments, startQuery_eq, bind_eq_error, map_eq_error]
  refine or_congr Iff.rfl ?_
  constructor
  · rintro ⟨q₀, hstart, hrun⟩
    obtain ⟨tree, htree, rfl⟩ := map_eq_ok.mp hstart
    rw [foldlM_eq_error, names_start htree] at hrun
    exact ⟨tree, htree, hrun⟩
  · rintro ⟨tree, htree, herror⟩
    refine ⟨Query.start settings tree, map_eq_ok.mpr ⟨tree, htree, rfl⟩, ?_⟩
    rwa [foldlM_eq_error, names_start htree]

theorem exists_compileArguments_iff {settings : Settings} {arguments : List Text} :
    (∃ q, compileArguments settings arguments = .ok q) ↔
      ∃ tree, startPopulation settings arguments = .ok tree ∧
        ∀ a ∈ arguments, argumentError? settings.casters tree.names a = none := by
  constructor
  · rintro ⟨q, hq⟩
    obtain ⟨tree, htree, -⟩ := after_of_compileArguments hq
    refine ⟨tree, htree, List.findSome?_eq_none_iff.mp ?_⟩
    rw [Option.eq_none_iff_forall_ne_some]
    intro e he
    rw [compileArguments_eq_error.mpr (.inr ⟨tree, htree, he⟩)] at hq
    cases hq
  · rintro ⟨tree, htree, hnone⟩
    cases hq : compileArguments settings arguments with
    | ok q => exact ⟨q, rfl⟩
    | error e =>
      rcases compileArguments_eq_error.mp hq with hstart | ⟨tree', htree', he⟩
      · rw [htree] at hstart
        cases hstart
      · obtain rfl : tree = tree' := Except.ok.inj (htree.symm.trans htree')
        rw [List.findSome?_eq_none_iff.mpr hnone] at he
        cases he

end DocQuery
