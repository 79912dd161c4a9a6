import DocQuery.Proofs.Query.Exchange
import DocQuery.Proofs.Value.Ordinary

/-!
# Queries that an exchange leaves as they are

Where the filter and the projections hold ordinary values under ordinary keys, the document of a
query has them as they are, and tells the query.

* `Population.through_injective`, `sortValue_injective`: parts of a query are told by their values.
* `Query.eq_of_through_eq`: so is the whole query.
* `Query.IsOrdinary`: the filter and all projections are ordinary.
* **`toDocument_lossless`**: the document of such a query has its parts and tells it from others.
-/

namespace DocQuery

/-! ## Parts of a query -/

theorem optionalThrough_injective :
    Function.Injective (optionalThrough Value.document) := by
  rintro (_ | d) (_ | e) h
  · rfl
  · cases h
  · cases h
  · exact congrArg some (Value.document.inj h)

mutual

theorem Relation.through_injective {r r' : Relation}
    (h : r.through .document = r'.through .document) : r = r' := by
  obtain ⟨path, projection, children⟩ := r
  obtain ⟨path', projection', children'⟩ := r'
  rw [Relation.through, Relation.through] at h
  have hentries := Value.document.inj h
  have hpath := Option.some.inj (congrArg (Dict.get? "path".toList) hentries)
  have hprojection := Option.some.inj (congrArg (Dict.get? "projection".toList) hentries)
  have hpopulation := congrArg (Dict.get? "population".toList) hentries
  -- relations that have none below have no value for them
  have hchildren : children = children' := by
    cases children with
    | nil =>
      cases children' with
      | nil => rfl
      | cons => cases hpopulation
    | cons child children =>
      cases children' with
      | nil => cases hpopulation
      | cons child' children' =>
        exact Population.through_injective (Value.array.inj (Option.some.inj hpopulation))
  rw [Value.string.inj hpath, optionalThrough_injective hprojection, hchildren]

theorem Population.through_injective {relations relations' : Population}
    (h : Population.through .document relations = Population.through .document relations') :
    relations = relations' := by
  cases relations with
  | nil =>
    cases relations' with
    | nil => rfl
    | cons r relations' => cases h
  | cons r relations =>
    cases relations' with
    | nil => cases h
    | cons r' relations' =>
      obtain ⟨hfirst, hrest⟩ := List.cons.inj h
      rw [Relation.through_injective hfirst, Population.through_injective hrest]

end

theorem Direction.number_injective : Function.Injective Direction.number := by
  rintro (_ | _) (_ | _) h
  · rfl
  · exact absurd h (by decide)
  · exact absurd h (by decide)
  · rfl

theorem SortKey.value_injective : Function.Injective SortKey.value := by
  rintro ⟨field, direction⟩ ⟨field', direction'⟩ h
  obtain ⟨hfield, hrest⟩ := List.cons.inj (Value.array.inj h)
  obtain ⟨hnumber, -⟩ := List.cons.inj hrest
  rw [SortKey.mk.injEq]
  exact ⟨Value.string.inj hfield, Direction.number_injective (Value.int32.inj hnumber)⟩

theorem sortValue_injective : Function.Injective sortValue := by
  rintro (_ | keys) (_ | keys') h
  · rfl
  · cases h
  · cases h
  · exact congrArg some (List.map_injective_iff.mpr SortKey.value_injective (Value.array.inj h))

theorem populationThrough_injective : Function.Injective (populationThrough .document) :=
  Option.map_injective fun _ _ h => Population.through_injective (Value.array.inj h)

/-- A bound is told by the number of 64 bits that it stands as. -/
theorem eq_of_int64_eq {m n : Nat} {k l : Int64} (hm : k.toInt = m) (hn : l.toInt = n)
    (h : Value.int64 k = Value.int64 l) : m = n := by
  rw [Value.int64.inj h, hn] at hm
  exact (Int.ofNat.inj hm).symm

/-! ## Queries -/

/-- **A query is told by its document**, if the filter and the projections stand there as they
are. -/
theorem Query.eq_of_through_eq {q q' : Query} {skip limit skip' limit' : Int64}
    (hskip : skip.toInt = q.skip) (hlimit : limit.toInt = q.limit)
    (hskip' : skip'.toInt = q'.skip) (hlimit' : limit'.toInt = q'.limit)
    (h : q.through .document (.int64 skip) (.int64 limit) =
      q'.through .document (.int64 skip') (.int64 limit')) : q = q' := by
  have hpopulation := congrArg (Dict.get? "population".toList) h
  rw [Query.get?_population_through, Query.get?_population_through] at hpopulation
  have hfilter := Option.some.inj (congrArg (Dict.get? "filter".toList) h)
  have hsort := Option.some.inj (congrArg (Dict.get? "sort".toList) h)
  have hfirst := Option.some.inj (congrArg (Dict.get? "skip".toList) h)
  have hsecond := Option.some.inj (congrArg (Dict.get? "limit".toList) h)
  have hprojection := Option.some.inj (congrArg (Dict.get? "projection".toList) h)
  rw [Query.mk.injEq]
  exact ⟨Value.document.inj hfilter, sortValue_injective hsort,
    eq_of_int64_eq hskip hskip' hfirst, eq_of_int64_eq hlimit hlimit' hsecond,
    optionalThrough_injective hprojection, populationThrough_injective hpopulation⟩

/-- The filter and all projections hold ordinary values under ordinary keys. -/
structure Query.IsOrdinary (q : Query) : Prop where
  filter : areOrdinaryEntries q.filter = true
  projection : ∀ p ∈ q.projection.toList, areOrdinaryEntries p = true
  population : ∀ relations ∈ q.population.toList, ∀ p ∈ Population.projections relations,
    areOrdinaryEntries p = true

theorem exchanged_of_ordinary {d : Document} (h : areOrdinaryEntries d = true) :
    exchanged d = .document d :=
  Value.steady_of_isOrdinary (v := .document d) h

theorem Query.IsOrdinary.through_exchanged {q : Query} (h : q.IsOrdinary) (skip limit : Value) :
    q.through exchanged skip limit = q.through .document skip limit :=
  Query.through_congr skip limit (exchanged_of_ordinary h.filter)
    (fun p hp => exchanged_of_ordinary (h.projection p hp))
    fun relations hrelations p hp => exchanged_of_ordinary (h.population relations hrelations p hp)

/-- **The document of an ordinary query loses nothing.** It has the filter and all projections as
they are, and no other ordinary query has the same document. -/
theorem Query.toDocument_lossless {q : Query} (h : q.IsOrdinary) (hskip : q.skip ≤ maxCount)
    (hlimit : q.limit ≤ maxCount) :
    ∃ d, q.toDocument = .ok d ∧
      Dict.get? "filter".toList d = some (.document q.filter) ∧
      Dict.get? "projection".toList d = some (optionalThrough .document q.projection) ∧
      Dict.get? "population".toList d = populationThrough .document q.population ∧
      ∀ q' : Query, q'.IsOrdinary → q'.toDocument = .ok d → q' = q := by
  obtain ⟨skip, hskip, hskipInt⟩ := exists_countValue_of_le hskip
  obtain ⟨limit, hlimit, hlimitInt⟩ := exists_countValue_of_le hlimit
  have hdocument := Query.toDocument_eq hskip hlimit
  rw [h.through_exchanged] at hdocument
  refine ⟨_, hdocument, rfl, rfl, Query.get?_population_through _ q _ _, fun q' h' hq' => ?_⟩
  obtain ⟨skip', limit', hskip', hlimit', hsame⟩ := Query.eq_of_toDocument hq'
  rw [h'.through_exchanged] at hsame
  exact Query.eq_of_through_eq hskip' hlimit' hskipInt hlimitInt hsame.symm

/-- A query for dates between bounds, for a pattern and for members of a nested list, with
relations one below the other. -/
def nestedQuery : Query where
  filter := [("born".toList, .document [("$gte".toList, .dateTime (-1)),
      ("$lt".toList, .dateTime 86400000)]),
    ("name".toList, .regex "^a".toList "im".toList),
    ("tags".toList, .document [("$nin".toList, .array [.null, .int64 1, .array [.bool true],
      .document [("x.y".toList, .dateTime 5)]])])]
  sort := some [⟨"born".toList, .descending⟩]
  skip := 2
  limit := maxCount
  projection := some [("name".toList, .int32 1), ("tags".toList, .document [])]
  population := some [.mk "pet".toList (some [("born".toList, .regex "a".toList "x".toList)])
    [.mk "toy".toList none [], .mk "vet".toList (some [("name".toList, .int32 0)]) []]]

theorem Query.toDocument_lossless_nested :
    nestedQuery.IsOrdinary ∧ nestedQuery.skip ≤ maxCount ∧ nestedQuery.limit ≤ maxCount ∧
      ∃ d, nestedQuery.toDocument = .ok d ∧
        Dict.get? "filter".toList d = some (.document nestedQuery.filter) ∧
        Dict.get? "projection".toList d =
          some (optionalThrough .document nestedQuery.projection) ∧
        Dict.get? "population".toList d = populationThrough .document nestedQuery.population ∧
        ∀ q' : Query, q'.IsOrdinary → q'.toDocument = .ok d → q' = nestedQuery := by
  have hordinary : nestedQuery.IsOrdinary := by
    refine ⟨rfl, fun p hp => ?_, fun relations hrelations p hp => ?_⟩
    · rw [List.mem_singleton.mp hp]
      rfl
    · rw [List.mem_singleton.mp hrelations] at hp
      rcases List.mem_cons.mp hp with rfl | hp
      · rfl
      · rw [List.mem_singleton.mp hp]
        rfl
  have hskip : nestedQuery.skip ≤ maxCount := by decide
  have hlimit : nestedQuery.limit ≤ maxCount := Nat.le_refl _
  exact ⟨hordinary, hskip, hlimit, Query.toDocument_lossless hordinary hskip hlimit⟩

end DocQuery
