import DocQuery.Proofs.Compile.Meaning
import DocQuery.Proofs.Filter.Steady
import DocQuery.Proofs.Query.Exchange

/-!
# Exchanging compiled queries

A compiled query becomes a document by an exchange, which reads every document that is the form of
another value as that value. Inside the filter and the projections nothing is left to reduce; they
themselves are reduced if their fields make them such a form.

* `steady_readEntry`, `steady_foldl_routeToken`: the values of projections.
* `Query.Steady`, **`steady_of_compile`**: a compiled query has nothing to reduce below the filter
  and the projections.
* `exists_countValue`: a bound that was read fits.
* **`toDocument_of_compile`**: what comes out for the filter and the projections, and when it is
  what was compiled.
* `not_exchanged_form`: a filter that comes out as another value.
-/

namespace DocQuery

open Outcome

/-! ## Projections -/

namespace Projection

theorem steady_readLiteral {token : Text} {entry : Text × Value}
    (h : readLiteral token = .ok entry) : entry.2.Steady := by
  unfold readLiteral at h
  split at h
  · split at h
    · split at h
      · split at h
        · rename_i v hv
          cases h
          exact Json.steady_value? hv
        · cases h
      · cases h
    · cases h
  · cases h

theorem steady_readEntry {token : Text} {entry : Text × Value} (h : readEntry token = .ok entry) :
    entry.2.Steady := by
  unfold readEntry at h
  split at h
  · cases h
    rfl
  · split at h
    · exact steady_readLiteral (mapError_eq_ok.mp h)
    · cases h
      rfl

theorem steady_parse {value : Text} {relations : Population} {projection : Option Document}
    (h : (parse value relations).1 = .ok projection) :
    ∀ p ∈ projection.toList, SteadyEntries p := by
  rw [parse_fst] at h
  obtain ⟨entries, hentries, rfl⟩ := map_eq_ok.mp h
  have hsteady : SteadyEntries (Dict.ofList entries) := by
    refine SteadyEntries.nil.insertAll fun entry hentry => ?_
    obtain ⟨token, -, htoken⟩ := mem_of_mapM hentries hentry
    exact steady_readEntry htoken
  intro p hp
  unfold ofFields at hp
  split at hp
  · cases hp
  · rw [List.mem_singleton.mp hp]
    exact hsteady

theorem steady_foldl_routeToken (tokens : List Text) {relations : Population}
    (h : relations.Steady) : (tokens.foldl routeToken relations).Steady := by
  induction tokens generalizing relations with
  | nil => exact h
  | cons token tokens ih =>
    refine ih ?_
    cases hbelongs : belongs relations.names token with
    | false => rwa [routeToken_of_not_belongs hbelongs]
    | true => exact Population.steady_route? (steady_int32 _) (route?_signedField hbelongs) h

end Projection

/-! ## Compiled queries -/

/-- Nothing is left to reduce below the filter and the projections. -/
structure Query.Steady (q : Query) : Prop where
  filter : SteadyEntries q.filter
  projection : ∀ p ∈ q.projection.toList, SteadyEntries p
  population : ∀ relations ∈ q.population.toList, relations.Steady

theorem steady_of_fragmentOf? {casters : CasterTable} (hcasters : casters.Steady)
    {argument : Text} {fragment : Fragment}
    (h : fragmentOf? casters argument = some (.ok fragment)) : fragment.condition.Steady := by
  rcases fragmentOf?_eq_ok h with ⟨phrase, hphrase⟩ | hparse
  · exact Fragment.steady_search hphrase
  · exact Fragment.steady_parse hcasters hparse

theorem Query.Means.steady {settings : Settings} {arguments : List Text} {tree : Population}
    {q : Query} (hcasters : settings.casters.Steady) (htree : tree.Steady)
    (h : q.Means settings arguments tree) : q.Steady where
  filter := by
    obtain ⟨fragments, hfragments, hfilter⟩ := h.filter
    rw [hfilter]
    refine Filter.steady_foldl_merge (fun fragment hmem => ?_) .nil
    obtain ⟨argument, -, hargument⟩ := exists_of_mem_fragments hfragments hmem
    exact steady_of_fragmentOf? hcasters hargument
  projection := by
    have hprojection := h.projection
    cases hvalue : (Reserved.fields.values arguments).getLast? with
    | none =>
      rw [hvalue] at hprojection
      rw [← Except.ok.inj hprojection]
      exact fun _ hp => absurd hp List.not_mem_nil
    | some value =>
      rw [hvalue] at hprojection
      exact Projection.steady_parse hprojection
  population := by
    rw [h.population]
    split
    · intro relations hrelations
      rw [List.mem_singleton.mp hrelations]
      exact Projection.steady_foldl_routeToken _ htree
    · exact fun _ hrelations => absurd hrelations List.not_mem_nil

/-- **A compiled query has nothing to reduce** below its filter and its projections. -/
theorem steady_of_compile {settings : Settings} {query : Text} {q : Query}
    (hcasters : settings.casters.Steady) (h : compile settings query = .ok q) : q.Steady := by
  obtain ⟨tree, htree, hmeans⟩ := means_of_compileArguments h
  exact hmeans.steady hcasters (Population.steady_of_bare (bare_startPopulation htree))

/-! ## Bounds -/

theorem exists_countValue_toNat {n : Int64} (h : 0 ≤ n.toInt) :
    ∃ v, countValue n.toInt.toNat = .ok v := by
  have hlt := n.toInt_lt
  have hfits : n.toInt.toNat ≤ maxCount := by
    rw [maxCount]
    omega
  obtain ⟨k, hk, -⟩ := exists_countValue_of_le hfits
  exact ⟨_, hk⟩

theorem exists_countValue_of_readBound {value : Text} {n : Nat} (h : readBound value = .ok n) :
    ∃ v, countValue n = .ok v := by
  unfold readBound at h
  split at h
  · cases h
    exact ⟨_, rfl⟩
  · split at h
    · cases h
    · split at h
      · cases h
      · rename_i k _ hk
        cases h
        exact exists_countValue_toNat (Int.not_lt.mp hk)

/-- A bound that was read, or is zero because there was none, fits. -/
theorem exists_countValue {value? : Option Text} {n : Nat}
    (h : (value?.map readBound).getD (.ok 0) = .ok n) : ∃ v, countValue n = .ok v := by
  cases value? with
  | none =>
    cases h
    exact ⟨_, rfl⟩
  | some value => exact exists_countValue_of_readBound h

/-! ## Exchange -/

/-- **An exchange reduces the filter and the projections**, if nothing is left to reduce below. -/
theorem Query.Steady.toDocument_eq {q : Query} (h : q.Steady) {skip limit : Value}
    (hskip : countValue q.skip = .ok skip) (hlimit : countValue q.limit = .ok limit) :
    q.toDocument = .ok (q.through reduce skip limit) := by
  rw [Query.toDocument_eq hskip hlimit]
  refine congrArg Except.ok (Query.through_congr skip limit (reduced_document h.filter) ?_ ?_)
  · exact fun p hp => reduced_document (h.projection p hp)
  · exact fun relations hrelations p hp => reduced_document (h.population relations hrelations p hp)

/-- **What comes out for the filter and the projections.** Where casters make values that an exchange
leaves as they are, a compiled query has a document. Its filter, its projection and the projections
of its relations are the compiled ones, read by their keys; each of them is the compiled one if its
keys tell no form. -/
theorem toDocument_of_compile {settings : Settings} {query : Text} {q : Query}
    (hcasters : settings.casters.Steady) (h : compile settings query = .ok q) :
    ∃ asValue skip limit d, ReadsForms asValue ∧ countValue q.skip = .ok skip ∧
      countValue q.limit = .ok limit ∧ q.toDocument = .ok d ∧ d = q.through asValue skip limit ∧
      (¬TellsForm q.filter → Dict.get? "filter".toList d = some (.document q.filter)) ∧
      (Dict.get? "projection".toList d = some .null ↔ q.projection = none) ∧
      (∀ p, q.projection = some p → ¬TellsForm p →
        Dict.get? "projection".toList d = some (.document p)) ∧
      ((∀ relations ∈ q.population.toList, ∀ p ∈ relations.projections, ¬TellsForm p) →
        Dict.get? "population".toList d = populationThrough .document q.population) := by
  obtain ⟨tree, -, hmeans⟩ := means_of_compileArguments h
  obtain ⟨skip, hskip⟩ := exists_countValue hmeans.skip
  obtain ⟨limit, hlimit⟩ := exists_countValue hmeans.limit
  have hreads := readsForms_reduce
  refine ⟨reduce, skip, limit, _, hreads, hskip, hlimit,
    (steady_of_compile hcasters h).toDocument_eq hskip hlimit, rfl, fun hfilter => ?_, ?_,
    fun p hp hkeys => ?_, fun hkeys => ?_⟩
  · exact congrArg some (hreads.kept _ hfilter)
  · exact Option.some_inj.trans (optionalThrough_eq_null_iff hreads.ne_null q.projection)
  · have hkept : optionalThrough reduce (some p) = .document p := hreads.kept p hkeys
    rw [← hp] at hkept
    exact congrArg some hkept
  · rw [Query.get?_population_through, populationThrough_eq_iff]
    exact fun relations hrelations p hp => hreads.kept p (hkeys relations hrelations p hp)

/-- A caster that writes a text in capitals. -/
def capitalCaster : CasterTable :=
  [("upper".toList, fun text => .ok (.string (text.map Char.toUpper)))]

/-- A query with a value that is cast, a bound on another field and fields of a relation. -/
def exchangedQuery : Text :=
  "name=upper(bo)&age>5&limit=3&populate=pet&fields=pet.name,-age".toList

/-- What it is compiled to. -/
def exchangedResult : Query where
  filter := [("name".toList, .string "BO".toList),
    ("age".toList, .document [("$gt".toList, .int64 5)])]
  limit := 3
  projection := some [("age".toList, .int32 0)]
  population := some [.mk "pet".toList (some [("name".toList, .int32 1)]) []]

theorem toDocument_of_compile_exchanged :
    compile ⟨[], true, capitalCaster⟩ exchangedQuery = .ok exchangedResult ∧
      ∃ d, exchangedResult.toDocument = .ok d ∧
        Dict.get? "filter".toList d = some (.document exchangedResult.filter) ∧
        Dict.get? "projection".toList d =
          some (optionalThrough .document exchangedResult.projection) ∧
        Dict.get? "population".toList d =
          populationThrough .document exchangedResult.population := by
  have hcompile : compile ⟨[], true, capitalCaster⟩ exchangedQuery = .ok exchangedResult := rfl
  have hcasters : CasterTable.Steady capitalCaster := by
    refine CasterTable.steady_of_isPlain ?_
    rintro v ⟨name, caster, inner, hmem, hv⟩
    cases List.mem_singleton.mp hmem
    cases hv
    rfl
  obtain ⟨asValue, skip, limit, d, -, -, -, hd, -, hfilter, -, hprojection, hpopulation⟩ :=
    toDocument_of_compile hcasters hcompile
  refine ⟨hcompile, d, hd, hfilter (by decide), hprojection _ rfl (by decide), hpopulation ?_⟩
  intro relations hrelations p hp
  rw [List.mem_singleton.mp hrelations] at hp
  rw [List.mem_singleton.mp hp]
  decide

/-- A query for a field whose name tells a form. -/
def formQuery : Text := "$date=5".toList

/-- **A filter can come out as another value.** -/
theorem not_exchanged_form :
    ¬ ∀ (settings : Settings) (query : Text) (q : Query) (d : Document),
      (∀ v, settings.casters.Makes v → v.isPlain = true) → compile settings query = .ok q →
      q.toDocument = .ok d → Dict.get? "filter".toList d = some (.document q.filter) := by
  intro h
  have hkept := h {} formQuery { filter := [("$date".toList, .int64 5)] }
    [("filter".toList, .dateTime 5), ("sort".toList, .null), ("skip".toList, .int64 0),
      ("limit".toList, .int64 0), ("projection".toList, .null)]
    (fun _ ⟨_, _, _, hmem, _⟩ => absurd hmem List.not_mem_nil) rfl rfl
  cases hkept

end DocQuery
