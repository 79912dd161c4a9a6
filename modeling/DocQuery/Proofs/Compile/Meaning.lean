import DocQuery.Proofs.Compile.Run

/-!
# What a compiled query means

* `bare_startPopulation`: the population to start from has no projections.
* `compileArguments_congr`: lists of relations may stand anywhere among the other arguments.
* `Query.Means`: each part of a query, said through the arguments.
* **`compile_meaning`**: that is the query they are compiled to.
-/

namespace DocQuery

theorem bare_startPopulation {settings : Settings} {arguments : List Text} {tree : Population}
    (h : startPopulation settings arguments = .ok tree) : tree.bare = tree := by
  rcases startPopulation_eq_ok h with rfl | ⟨value, hvalue⟩
  · rfl
  · exact Population.bare_of_parse hvalue

/-- The lists of relations and the other arguments, each in their order, tell the query. -/
theorem compileArguments_congr (settings : Settings) {arguments arguments' : List Text}
    (hlists : Reserved.populate.values arguments = Reserved.populate.values arguments')
    (hothers : (arguments.filter fun a => Reserved.name? a ≠ some .populate) =
      arguments'.filter fun a => Reserved.name? a ≠ some .populate) :
    compileArguments settings arguments = compileArguments settings arguments' := by
  have hstart : startQuery settings arguments = startQuery settings arguments' := by
    rw [startQuery, startQuery, requestedPopulation_congr hlists]
  rw [compileArguments, compileArguments, hstart]
  congr 1
  funext q
  rw [← foldlM_filter_populate, hothers, foldlM_filter_populate]

/-- What arguments mean, where the run over them starts from a population. -/
structure Query.Means (settings : Settings) (arguments : List Text) (tree : Population)
    (q : Query) : Prop where
  /-- The last sort list tells the order. -/
  sort : q.sort = (Reserved.sort.values arguments).getLast?.bind SortKey.parseList?
  /-- The last skip value tells how many results to leave out. -/
  skip : ((Reserved.skip.values arguments).getLast?.map readBound).getD (.ok 0) = .ok q.skip
  /-- The last limit value tells how many results to give at most. -/
  limit : ((Reserved.limit.values arguments).getLast?.map readBound).getD (.ok 0) = .ok q.limit
  /-- The fragments of all arguments that have one are merged in their order. -/
  filter : ∃ fragments : List Fragment,
    arguments.filterMap (fragmentOf? settings.casters) = fragments.map .ok ∧
      q.filter = fragments.foldl Filter.merge []
  /-- The last list of fields tells the projection. -/
  projection :
    ((Reserved.fields.values arguments).getLast?.map fun value =>
      (Projection.parse value tree).1).getD (.ok none) = .ok q.projection
  /-- The tokens of all lists of fields that belong to a relation are routed in their order. -/
  population : q.population =
    if settings.populate then
      some ((((Reserved.fields.values arguments).flatMap Projection.tokens).filter
        (Projection.belongs tree.names)).foldl Projection.routeToken tree)
    else none
  /-- Routing keeps the shape of the population. -/
  shape : ∀ relations, q.population = some relations → relations.bare = tree

theorem means_of_compileArguments {settings : Settings} {arguments : List Text} {q : Query}
    (h : compileArguments settings arguments = .ok q) :
    ∃ tree, startPopulation settings arguments = .ok tree ∧ q.Means settings arguments tree := by
  obtain ⟨tree, htree, hafter⟩ := after_of_compileArguments h
  have hpopulation : q.population =
      if settings.populate then
        some ((((Reserved.fields.values arguments).flatMap Projection.tokens).filter
          (Projection.belongs tree.names)).foldl Projection.routeToken tree)
      else none := by
    rw [hafter.population, Query.start, Projection.foldl_routeToken_filter]
    split <;> rfl
  refine ⟨tree, htree, ⟨?_, hafter.skip, hafter.limit, hafter.filter, ?_, hpopulation, ?_⟩⟩
  · rw [hafter.sort]
    cases (Reserved.sort.values arguments).getLast? <;> rfl
  · rw [← hafter.projection]
    simp only [Projection.parse_fst, names_start htree]
    rfl
  · intro relations hrelations
    rw [hpopulation] at hrelations
    split at hrelations
    · cases hrelations
      rw [Projection.bare_foldl_routeToken, bare_startPopulation htree]
    · cases hrelations

/-- **What a compiled query means.** The last argument of each of the names `sort`, `skip`, `limit`
and `fields` tells what is sorted by, left out, kept and projected. The filter is made of the
fragments of all arguments that have one, in their order. The population, where relations are
expanded, is that of the last list of relations, in its shape, with the fields of all lists routed
into it in their order; where the lists of relations stand does not matter. -/
theorem compile_meaning {settings : Settings} {query : Text} {q : Query}
    (h : compile settings query = .ok q) :
    ∃ tree, startPopulation settings (arguments settings query) = .ok tree ∧
      q.Means settings (arguments settings query) tree ∧
      ∀ query',
        Reserved.populate.values (arguments settings query') =
          Reserved.populate.values (arguments settings query) →
        ((arguments settings query').filter fun a => Reserved.name? a ≠ some .populate) =
          (arguments settings query).filter (fun a => Reserved.name? a ≠ some .populate) →
        compile settings query' = .ok q := by
  obtain ⟨tree, htree, hmeans⟩ := means_of_compileArguments h
  refine ⟨tree, htree, hmeans, fun query' hlists hothers => ?_⟩
  rw [compile, compileArguments_congr settings hlists hothers]
  exact h

/-- A query with lists of fields in front of the list of relations, and two bounds on one field. -/
def populatedQuery : Text :=
  "fields=pet.name,-age&populate=pet,user&sort=-age&limit=5&age>3&age<9".toList

/-- The populated query, compiled. -/
def populatedResult : Query where
  filter := [("age".toList, .document [("$gt".toList, .int64 3), ("$lt".toList, .int64 9)])]
  sort := some [⟨"age".toList, .descending⟩]
  limit := 5
  projection := some [("age".toList, .int32 0)]
  population := some [.mk "pet".toList (some [("name".toList, .int32 1)]) [],
    .mk "user".toList none []]

theorem compile_meaning_populated :
    compile ⟨[], true, []⟩ populatedQuery = .ok populatedResult ∧
      ∃ tree, startPopulation ⟨[], true, []⟩ (arguments ⟨[], true, []⟩ populatedQuery) = .ok tree ∧
        populatedResult.Means ⟨[], true, []⟩ (arguments ⟨[], true, []⟩ populatedQuery) tree ∧
        ∀ query',
          Reserved.populate.values (arguments ⟨[], true, []⟩ query') =
            Reserved.populate.values (arguments ⟨[], true, []⟩ populatedQuery) →
          ((arguments ⟨[], true, []⟩ query').filter fun a => Reserved.name? a ≠ some .populate) =
            (arguments ⟨[], true, []⟩ populatedQuery).filter
              (fun a => Reserved.name? a ≠ some .populate) →
          compile ⟨[], true, []⟩ query' = .ok populatedResult := by
  have h : compile ⟨[], true, []⟩ populatedQuery = .ok populatedResult := rfl
  exact ⟨h, compile_meaning h⟩

end DocQuery
