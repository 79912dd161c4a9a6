import DocQuery.Proofs.Compile.Populated
import DocQuery.Proofs.Dict.Last

/-!
# Overwritten arguments

Of the arguments with one of the names `sort`, `limit`, `skip` and `fields` the last one counts.
What is left of an earlier one are the fields that it gave to relations.

* `routedTokens`, `routedEntries`: the fields that arguments give to relations, in order.
* **`shows_iff_last?`**: a relation shows the last sign that was given to a field.
* `getLast?_values_without`: which value counts does not depend on an argument that is overwritten.
* **`compile_overwritten`**: a query without an overwritten argument, and when it means the same.
* `not_overwritten_routed`: a query that does not mean the same.
-/

namespace DocQuery

open Projection

/-! ## Fields of relations -/

/-- The tokens of arguments that belong to a relation, in order. -/
def routedTokens (roots : List Text) (arguments : List Text) : List Text :=
  ((Reserved.fields.values arguments).flatMap tokens).filter (belongs roots)

/-- The fields that arguments give to relations, with their signs, in order. -/
def routedEntries (roots : List Text) (arguments : List Text) : List (Text × Value) :=
  (routedTokens roots arguments).map entry

theorem routedTokens_append (roots arguments others : List Text) :
    routedTokens roots (arguments ++ others) =
      routedTokens roots arguments ++ routedTokens roots others := by
  rw [routedTokens, Reserved.values_append, List.flatMap_append, List.filter_append]
  rfl

theorem routedEntries_append (roots arguments others : List Text) :
    routedEntries roots (arguments ++ others) =
      routedEntries roots arguments ++ routedEntries roots others := by
  rw [routedEntries, routedTokens_append, List.map_append]
  rfl

/-- The fields of a population are those of the tokens that were routed into it. -/
theorem flat_foldl_routeToken {tree : Population} (hneat : tree.Neat) (hbare : tree.bare = tree)
    (hroots : [] ∉ tree.names) {tokens : List Text}
    (hbelongs : ∀ token ∈ tokens, belongs tree.names token = true) :
    (Dict.ofList (tokens.map entry)).Perm (tokens.foldl routeToken tree).flat ∧
      (tokens.foldl routeToken tree).Neat := by
  -- the tokens are shared out, and none of them is left for the top
  have hshare := (Share.nil hneat hbare).foldl hroots tokens
  have htop : (tokens.filter fun token => !belongs tree.names token) = [] := by
    rw [List.filter_eq_nil_iff]
    intro token htoken
    simp [hbelongs token htoken]
  rw [htop] at hshare
  exact ⟨hshare.perm, hshare.neat⟩

theorem routedTokens_nil (arguments : List Text) : routedTokens [] arguments = [] :=
  List.filter_eq_nil_iff.mpr fun token _ => by simp [belongs]

theorem population_of_means {settings : Settings} {arguments : List Text} {tree : Population}
    {q : Query} (h : q.Means settings arguments tree) :
    q.population =
      if settings.populate then some ((routedTokens tree.names arguments).foldl routeToken tree)
      else none :=
  h.population

theorem getD_population_of_means {settings : Settings} {arguments : List Text} {tree : Population}
    {q : Query} (htree : startPopulation settings arguments = .ok tree)
    (h : q.Means settings arguments tree) :
    q.population.getD [] = (routedTokens tree.names arguments).foldl routeToken tree := by
  rw [population_of_means h]
  cases hpopulate : settings.populate with
  | true => rfl
  | false =>
    obtain rfl := startPopulation_eq_nil hpopulate htree
    have hnone : routedTokens (Population.names []) arguments = [] := routedTokens_nil arguments
    rw [hnone]
    rfl

/-- **A relation shows the last sign that was given to a field.** -/
theorem shows_iff_last? {settings : Settings} {arguments : List Text} {tree : Population}
    {q : Query} (htree : startPopulation settings arguments = .ok tree)
    (h : q.Means settings arguments tree) (field : Text) (v : Value) :
    (q.population.getD []).Shows field v ↔
      Dict.last? field (routedEntries tree.names arguments) = some v := by
  have hbelongs : ∀ token ∈ routedTokens tree.names arguments, belongs tree.names token = true :=
    fun token htoken => (List.mem_filter.mp htoken).2
  obtain ⟨hperm, hneat⟩ := flat_foldl_routeToken (neat_startPopulation htree)
    (bare_startPopulation htree) (nil_not_mem_names_start htree) hbelongs
  rw [getD_population_of_means htree h, ← Population.mem_flat hneat, ← hperm.mem_iff,
    Dict.mem_iff_get? (Dict.nodup_keys_ofList _), Dict.get?_ofList]
  rfl

/-! ## Leaving out an argument -/

section Without

variable {settings : Settings} {name : Reserved} {value argument : Text}
  {before after : List Text} {tree : Population} {q q' : Query}

theorem Reserved.value?_eq (hargument : ofArgument? argument = some (name, value))
    (other : Reserved) : other.value? argument = if name = other then some value else none := by
  rw [value?, hargument]

theorem Reserved.values_ne_nil {arguments : List Text}
    (h : ∃ a ∈ arguments, name? a = some name) : name.values arguments ≠ [] := by
  obtain ⟨a, ha, hname⟩ := h
  obtain ⟨⟨other, value⟩, harg, hother⟩ := Option.map_eq_some_iff.mp hname
  have hvalue : name.value? a = some value := by
    rw [value?_eq harg]
    exact if_pos hother
  exact List.ne_nil_of_mem (List.mem_filterMap.mpr ⟨a, ha, hvalue⟩)

theorem Reserved.values_without_of_ne (hargument : ofArgument? argument = some (name, value))
    {other : Reserved} (hother : name ≠ other) :
    other.values (before ++ argument :: after) = other.values (before ++ after) := by
  have hnone : other.value? argument = none := by
    rw [value?_eq hargument, if_neg hother]
  rw [values_append, values_append, values, values, values, List.filterMap_cons_none hnone]

/-- **Which value of a name counts** does not depend on an argument that is overwritten. -/
theorem getLast?_values_without (hargument : Reserved.ofArgument? argument = some (name, value))
    (hlater : ∃ later ∈ after, Reserved.name? later = some name) (other : Reserved) :
    (other.values (before ++ after)).getLast? =
      (other.values (before ++ argument :: after)).getLast? := by
  by_cases hother : name = other
  · subst hother
    -- the name has a value behind the argument, and that is the last one with it and without it
    have hlast := Reserved.values_ne_nil hlater
    rw [← List.singleton_append, Reserved.values_append, Reserved.values_append,
      Reserved.values_append, List.getLast?_append_of_ne_nil _ hlast,
      List.getLast?_append_of_ne_nil _ (List.append_ne_nil_of_right_ne_nil _ hlast),
      List.getLast?_append_of_ne_nil _ hlast]
  · rw [Reserved.values_without_of_ne hargument hother]

/-- The names whose arguments overwrite each other, lists of relations aside. -/
def Reserved.overwriting : List Reserved := [.sort, .limit, .skip, .fields]

theorem filterMap_fragmentOf?_without (casters : CasterTable) (hname : name ∈ Reserved.overwriting)
    (hargument : Reserved.ofArgument? argument = some (name, value)) :
    (before ++ after).filterMap (fragmentOf? casters) =
      (before ++ argument :: after).filterMap (fragmentOf? casters) := by
  have hnone : fragmentOf? casters argument = none := by
    rw [fragmentOf?, hargument]
    cases name <;> first | rfl | exact absurd hname (by decide)
  rw [List.filterMap_append, List.filterMap_append, List.filterMap_cons_none hnone]

/-- A query that is compiled still is without an argument, if that is no list of relations. -/
theorem compileArguments_without (hname : name ≠ .populate)
    (hargument : Reserved.ofArgument? argument = some (name, value))
    (h : compileArguments settings (before ++ argument :: after) = .ok q) :
    ∃ tree q', startPopulation settings (before ++ argument :: after) = .ok tree ∧
      startPopulation settings (before ++ after) = .ok tree ∧
      compileArguments settings (before ++ after) = .ok q' ∧
      q.Means settings (before ++ argument :: after) tree ∧
      q'.Means settings (before ++ after) tree := by
  have hstart : startPopulation settings (before ++ argument :: after) =
      startPopulation settings (before ++ after) := by
    rw [startPopulation, startPopulation,
      requestedPopulation_congr (Reserved.values_without_of_ne hargument hname)]
  obtain ⟨tree, htree, hnone⟩ := exists_compileArguments_iff.mp ⟨q, h⟩
  have hkept : ∀ a ∈ before ++ after, argumentError? settings.casters tree.names a = none := by
    intro a ha
    refine hnone a ?_
    rw [List.mem_append] at ha ⊢
    exact ha.imp_right (List.mem_cons_of_mem argument)
  obtain ⟨q', hq'⟩ := exists_compileArguments_iff.mpr ⟨tree, hstart ▸ htree, hkept⟩
  obtain ⟨tree₁, htree₁, hmeans⟩ := means_of_compileArguments h
  obtain ⟨tree₂, htree₂, hmeans'⟩ := means_of_compileArguments hq'
  obtain rfl : tree = tree₁ := Except.ok.inj (htree.symm.trans htree₁)
  obtain rfl : tree = tree₂ := Except.ok.inj (htree.symm.trans (hstart.trans htree₂))
  exact ⟨tree, q', htree, htree₂, hq', hmeans, hmeans'⟩

/-- All parts of a query but the population are the same without an argument that is
overwritten. -/
theorem agree_without (hname : name ∈ Reserved.overwriting)
    (hargument : Reserved.ofArgument? argument = some (name, value))
    (hlater : ∃ later ∈ after, Reserved.name? later = some name)
    (h : q.Means settings (before ++ argument :: after) tree)
    (h' : q'.Means settings (before ++ after) tree) :
    q'.filter = q.filter ∧ q'.sort = q.sort ∧ q'.skip = q.skip ∧ q'.limit = q.limit ∧
      q'.projection = q.projection := by
  have hlast : ∀ other : Reserved, (other.values (before ++ after)).getLast? =
      (other.values (before ++ argument :: after)).getLast? :=
    getLast?_values_without hargument hlater
  have hskip := h'.skip
  have hlimit := h'.limit
  have hprojection := h'.projection
  rw [hlast] at hskip hlimit hprojection
  refine ⟨?_, ?_, ?_, ?_, ?_⟩
  · obtain ⟨fragments, hfragments, hfilter⟩ := h.filter
    obtain ⟨fragments', hfragments', hfilter'⟩ := h'.filter
    rw [filterMap_fragmentOf?_without _ hname hargument, hfragments] at hfragments'
    have hsame : fragments = fragments' :=
      (List.map_inj_right fun _ _ => Except.ok.inj).mp hfragments'
    rw [hfilter, hfilter', hsame]
  · rw [h'.sort, hlast, h.sort]
  · exact Except.ok.inj (hskip.symm.trans h.skip)
  · exact Except.ok.inj (hlimit.symm.trans h.limit)
  · exact Except.ok.inj (hprojection.symm.trans h.projection)

/-- An argument gives no fields to relations, unless it is a list of fields and relations are
expanded. -/
theorem routedTokens_eq_nil (htree : startPopulation settings (before ++ after) = .ok tree)
    (hargument : Reserved.ofArgument? argument = some (name, value))
    (h : name ≠ .fields ∨ settings.populate = false) : routedTokens tree.names [argument] = [] := by
  rcases h with hname | hpopulate
  · have hnone : Reserved.fields.value? argument = none := by
      rw [Reserved.value?_eq hargument, if_neg hname]
    rw [routedTokens, Reserved.values, List.filterMap_cons_none hnone]
    rfl
  · obtain rfl := startPopulation_eq_nil hpopulate htree
    exact routedTokens_nil [argument]

theorem routedTokens_without {roots : List Text} (h : routedTokens roots [argument] = []) :
    routedTokens roots (before ++ argument :: after) = routedTokens roots (before ++ after) := by
  rw [← List.singleton_append, routedTokens_append, routedTokens_append, routedTokens_append, h,
    List.nil_append]

theorem Query.eq_of_agree
    (h : q'.filter = q.filter ∧ q'.sort = q.sort ∧ q'.skip = q.skip ∧ q'.limit = q.limit ∧
      q'.projection = q.projection) (hpopulation : q'.population = q.population) : q' = q := by
  cases q
  cases q'
  simp_all

end Without

/-- **What an overwritten argument leaves.** A query that is compiled still is without an argument
whose name comes again, and only the fields of relations can be others. The query is the same if the
argument is no list of fields, if relations are not expanded, or if none of its tokens belongs to a
relation. And the relations show the same just if each field that the argument gave to one of them
is given again by a later argument, or was given with the same sign before. -/
theorem compile_overwritten {settings : Settings} {query query' : Text} {q : Query}
    {name : Reserved} {value argument : Text} {before after : List Text}
    (hname : name ∈ Reserved.overwriting)
    (hargument : Reserved.ofArgument? argument = some (name, value))
    (hlater : ∃ later ∈ after, Reserved.name? later = some name)
    (hquery : arguments settings query = before ++ argument :: after)
    (hquery' : arguments settings query' = before ++ after)
    (h : compile settings query = .ok q) :
    ∃ tree q', startPopulation settings (arguments settings query) = .ok tree ∧
      compile settings query' = .ok q' ∧
      (q'.filter = q.filter ∧ q'.sort = q.sort ∧ q'.skip = q.skip ∧ q'.limit = q.limit ∧
        q'.projection = q.projection) ∧
      q'.population.map Population.bare = q.population.map Population.bare ∧
      (name ≠ .fields ∨ settings.populate = false ∨ routedTokens tree.names [argument] = [] →
        q' = q) ∧
      ((∀ field v, (q'.population.getD []).Shows field v ↔ (q.population.getD []).Shows field v) ↔
        ∀ field v, Dict.last? field (routedEntries tree.names [argument]) = some v →
          field ∈ Dict.keys (routedEntries tree.names after) ∨
            Dict.last? field (routedEntries tree.names before) = some v) := by
  rw [compile, hquery] at h
  have hpopulate : name ≠ .populate := by
    rintro rfl
    exact absurd hname (by decide)
  obtain ⟨tree, q', htree, htree', hq', hmeans, hmeans'⟩ :=
    compileArguments_without hpopulate hargument h
  have hagree := agree_without hname hargument hlater hmeans hmeans'
  refine ⟨tree, q', by rw [hquery, htree], by rw [compile, hquery', hq'], hagree, ?_, ?_, ?_⟩
  · rw [population_of_means hmeans, population_of_means hmeans']
    split
    · rw [Option.map_some, Option.map_some, bare_foldl_routeToken, bare_foldl_routeToken]
    · rfl
  · intro hunrouted
    have hnil : routedTokens tree.names [argument] = [] := by
      rw [← or_assoc] at hunrouted
      exact hunrouted.elim (routedTokens_eq_nil htree' hargument) id
    refine Query.eq_of_agree hagree ?_
    rw [population_of_means hmeans, population_of_means hmeans', routedTokens_without hnil]
  · simp only [shows_iff_last? htree hmeans, shows_iff_last? htree' hmeans']
    rw [← List.singleton_append, routedEntries_append, routedEntries_append, routedEntries_append,
      ← List.append_assoc]
    exact Dict.last?_without_iff

/-- A list of fields that is overwritten. Its one field of a relation is given again. -/
def resignedQuery : Text := "populate=pet&fields=pet.name,-age&fields=-pet.name&limit=5".toList

/-- The same without that list. -/
def resignedLast : Text := "populate=pet&fields=-pet.name&limit=5".toList

/-- What both are compiled to. -/
def resignedResult : Query where
  limit := 5
  population := some [.mk "pet".toList (some [("name".toList, .int32 0)]) []]

theorem compile_overwritten_resigned :
    compile ⟨[], true, []⟩ resignedQuery = .ok resignedResult ∧
      ∃ q', compile ⟨[], true, []⟩ resignedLast = .ok q' ∧ q'.limit = 5 ∧ q'.projection = none ∧
        ∀ field v,
          (q'.population.getD []).Shows field v ↔
            (resignedResult.population.getD []).Shows field v := by
  have harguments : arguments ⟨[], true, []⟩ resignedQuery =
      ["populate=pet".toList] ++ "fields=pet.name,-age".toList ::
        ["fields=-pet.name".toList, "limit=5".toList] := rfl
  have harguments' : arguments ⟨[], true, []⟩ resignedLast =
      ["populate=pet".toList] ++ ["fields=-pet.name".toList, "limit=5".toList] := rfl
  have hargument : Reserved.ofArgument? "fields=pet.name,-age".toList =
      some (.fields, "pet.name,-age".toList) := rfl
  have hlater : ∃ later ∈ ["fields=-pet.name".toList, "limit=5".toList],
      Reserved.name? later = some .fields := ⟨_, List.mem_cons_self, rfl⟩
  have hcompile : compile ⟨[], true, []⟩ resignedQuery = .ok resignedResult := rfl
  have hstart : startPopulation ⟨[], true, []⟩ (arguments ⟨[], true, []⟩ resignedQuery) =
      .ok [.leaf "pet".toList] := rfl
  obtain ⟨tree, q', htree, hq', ⟨-, -, -, hlimit, hprojection⟩, -, -, hsame⟩ :=
    compile_overwritten (by decide) hargument hlater harguments harguments' hcompile
  obtain rfl := Except.ok.inj (hstart.symm.trans htree)
  refine ⟨hcompile, q', hq', hlimit, hprojection, hsame.mpr fun field v hlast => .inl ?_⟩
  have hrouted : routedEntries (Population.names [.leaf "pet".toList])
      ["fields=pet.name,-age".toList] = [("pet.name".toList, .int32 1)] := rfl
  rw [hrouted] at hlast
  have hkey := Dict.mem_keys.mpr ⟨v, Dict.mem_of_get? hlast⟩
  rw [List.mem_singleton.mp hkey]
  decide

/-- A list of fields that is overwritten. Its field of a relation is not given again. -/
def routedQuery : Text := "populate=pet&fields=pet.name&fields=age".toList

/-- The same without that list. -/
def routedLast : Text := "populate=pet&fields=age".toList

/-- **An overwritten list of fields can leave a field behind.** -/
theorem not_overwritten_routed :
    ¬ ∀ (settings : Settings) (query query' : Text) (q q' : Query) (name : Reserved)
      (value argument : Text) (before after : List Text),
      name ∈ Reserved.overwriting → Reserved.ofArgument? argument = some (name, value) →
      (∃ later ∈ after, Reserved.name? later = some name) →
      arguments settings query = before ++ argument :: after →
      arguments settings query' = before ++ after →
      compile settings query = .ok q → compile settings query' = .ok q' → q' = q := by
  intro h
  have hsame := h ⟨[], true, []⟩ routedQuery routedLast
    { projection := some [("age".toList, .int32 1)],
      population := some [.mk "pet".toList (some [("name".toList, .int32 1)]) []] }
    { projection := some [("age".toList, .int32 1)],
      population := some [.leaf "pet".toList] }
    .fields "pet.name".toList "fields=pet.name".toList ["populate=pet".toList]
    ["fields=age".toList] (by decide) rfl ⟨_, List.mem_cons_self, rfl⟩ rfl rfl rfl rfl
  cases congrArg Query.population hsame

end DocQuery
