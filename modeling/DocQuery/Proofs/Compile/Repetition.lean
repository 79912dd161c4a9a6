import DocQuery.Proofs.Compile.Arguments
import DocQuery.Proofs.Compile.Reordering
import DocQuery.Proofs.Filter.Equality
import DocQuery.Proofs.Relation.Routing

/-!
# Repeated queries

* `foldl_routeToken_append_self`: tokens that are routed once more change nothing.
* `eq_of_after_append_self`: nor does a run over the same arguments once more.
* **`compile_repeated`**: a query string behind itself means what it means alone.
-/

namespace DocQuery

/-! ## Tokens -/

namespace Projection

/-- The field of a token and its value, if the token is dotted. -/
def tokenField? (token : Text) : Option Field :=
  if isDotted token then
    some ((signedField token).1.splitOn '.', .int32 (signedField token).2)
  else none

theorem routeToken_eq (relations : Population) (token : Text) :
    routeToken relations token =
      match tokenField? token with
      | some field => relations.setField field
      | none => relations := by
  rw [routeToken, route?, tokenField?]
  by_cases h : isDotted token = true
  · rw [if_pos h, if_pos h]
    rcases hsplit : (signedField token).1.splitOn '.' with _ | ⟨name, _ | ⟨next, rest⟩⟩
    · exact absurd hsplit (List.splitOn_ne_nil '.' _)
    · rw [Population.route?_of_singleton hsplit]
      rfl
    · rw [Population.route?_of_splitOn hsplit (List.cons_ne_nil next rest)]
      rfl
  · rw [if_neg h, if_neg h]
    rfl

theorem foldl_routeToken_eq (tokens : List Text) (relations : Population) :
    tokens.foldl routeToken relations =
      (tokens.filterMap tokenField?).foldl Population.setField relations := by
  rw [List.foldl_filterMap]
  congr 1
  funext relations token
  rw [routeToken_eq]
  cases tokenField? token <;> rfl

/-- Tokens that are routed once more change nothing. -/
theorem foldl_routeToken_append_self {tree : Population} (h : tree.bare = tree)
    (tokens : List Text) :
    (tokens ++ tokens).foldl routeToken tree = tokens.foldl routeToken tree := by
  rw [foldl_routeToken_eq, foldl_routeToken_eq, List.filterMap_append,
    Population.foldl_setField_append_self h]

end Projection

/-! ## Arguments -/

theorem getLast?_append_self {α : Type} (l : List α) : (l ++ l).getLast? = l.getLast? := by
  rw [List.getLast?_append, Option.or_self]

theorem isOperators_of_filterMap {casters : CasterTable} {arguments : List Text}
    {fragments : List Fragment}
    (h : arguments.filterMap (fragmentOf? casters) = fragments.map .ok) (field : Text)
    (ops : Document) (hmem : ⟨field, .operators ops⟩ ∈ fragments) : IsOperators ops :=
  (single_of_filterMap h _ hmem).isOperators

/-- **A run over the same arguments once more** ends in the same query. -/
theorem eq_of_after_append_self {settings : Settings} {tree : Population} {arguments : List Text}
    {q q' : Query} (hbare : tree.bare = tree)
    (h : (Query.start settings tree).After settings.casters arguments q)
    (h' : (Query.start settings tree).After settings.casters (arguments ++ arguments) q') :
    q' = q := by
  have hvalues : ∀ name : Reserved, (name.values (arguments ++ arguments)).getLast? =
      (name.values arguments).getLast? := by
    intro name
    rw [Reserved.values_append, getLast?_append_self]
  have hsort : q'.sort = q.sort := by rw [h'.sort, hvalues, ← h.sort]
  have hskip := h'.skip
  rw [hvalues, h.skip, Except.ok.injEq] at hskip
  have hlimit := h'.limit
  rw [hvalues, h.limit, Except.ok.injEq] at hlimit
  have hprojection := h'.projection
  rw [hvalues, h.projection, Except.ok.injEq] at hprojection
  have hpopulation : q'.population = q.population := by
    rw [h'.population, h.population, Query.start]
    cases settings.populate with
    | false => rfl
    | true =>
      rw [if_pos rfl, Option.map_some, Option.map_some, Reserved.values_append,
        List.flatMap_append, Projection.foldl_routeToken_append_self hbare]
  have hfilter : q'.filter = q.filter := by
    obtain ⟨fragments, hfragments, hq⟩ := h.filter
    obtain ⟨fragments', hfragments', hq'⟩ := h'.filter
    rw [List.filterMap_append, hfragments, ← List.map_append] at hfragments'
    obtain rfl : fragments ++ fragments = fragments' :=
      List.map_injective_iff.mpr (fun _ _ => Except.ok.inj) hfragments'
    rw [hq, hq']
    exact Filter.foldl_merge_append_self (isOperators_of_filterMap hfragments)
  obtain ⟨filter, sort, skip, limit, projection, population⟩ := q
  obtain ⟨filter', sort', skip', limit', projection', population'⟩ := q'
  simp only at hfilter hsort hskip hlimit hprojection hpopulation
  rw [hfilter, hsort, hskip, hlimit, hprojection, hpopulation]

theorem startPopulation_append_self (settings : Settings) (arguments : List Text) :
    startPopulation settings (arguments ++ arguments) = startPopulation settings arguments := by
  rw [startPopulation, requestedPopulation, List.filterMap_append, getLast?_append_self]
  rfl

/-- **Arguments that are made once more change nothing**, neither a query nor an error. -/
theorem compileArguments_append_self (settings : Settings) (arguments : List Text) :
    compileArguments settings (arguments ++ arguments) = compileArguments settings arguments := by
  cases hq : compileArguments settings arguments with
  | error e =>
    rw [compileArguments_eq_error] at hq ⊢
    rw [startPopulation_append_self]
    refine hq.imp_right fun ⟨tree, htree, herror⟩ => ⟨tree, htree, ?_⟩
    rw [List.findSome?_append, herror, Option.some_or]
  | ok q =>
    obtain ⟨tree, htree, hafter⟩ := after_of_compileArguments hq
    obtain ⟨tree', htree', hnone⟩ := exists_compileArguments_iff.mp ⟨q, hq⟩
    -- no argument has an error the second time either
    obtain ⟨q', hq'⟩ : ∃ q', compileArguments settings (arguments ++ arguments) = .ok q' := by
      refine exists_compileArguments_iff.mpr ⟨tree', ?_, fun a ha => hnone a (by simpa using ha)⟩
      rw [startPopulation_append_self, htree']
    obtain ⟨tree'', htree'', hafter'⟩ := after_of_compileArguments hq'
    rw [startPopulation_append_self, htree, Except.ok.injEq] at htree''
    subst htree''
    rw [hq', eq_of_after_append_self (bare_startPopulation htree) hafter hafter']

/-- **A query string behind itself means what it means alone.** It is compiled to the same query,
with the same order of fields, operators and projections, or refused with the same error, whatever
the string is and wherever it ends. -/
theorem compile_repeated (settings : Settings) (query : Text) :
    compile settings (query ++ '&' :: query) = compile settings query := by
  have harguments : arguments settings (query ++ '&' :: query) =
      arguments settings query ++ arguments settings query := by
    rw [arguments, allArguments_append, List.filter_append]
    rfl
  rw [compile, harguments, compileArguments_append_self, compile]

end DocQuery
