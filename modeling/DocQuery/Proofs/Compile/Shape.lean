import DocQuery.Proofs.Compile.Exchange

/-!
# The documents of compiled queries

* `Relation.MirroredBy`, `Population.MirroredBy`: values in which relations stand with their names,
  in their order and one below the other.
* **`mirroredBy_through`**: the documents of relations are such values.
* `Query.ShapedAs`, **`shapedAs_of_toDocument`**: the shape of the document of a query.
* **`compile_shaped`**: which queries have a document, and that compiled ones do.
-/

namespace DocQuery

/-! ## Relations -/

mutual

/-- A value mirrors a relation. It is a document with the name, with a value for the projection that
is null just if there is none, and with an array that mirrors the relations below, just if there are
any. -/
inductive Relation.MirroredBy : Relation → Value → Prop
  | leaf {path : Text} {projection : Option Document} {v : Value}
      (hprojection : v = .null ↔ projection = none) :
      Relation.MirroredBy (.mk path projection [])
        (.document [("path".toList, .string path), ("projection".toList, v)])
  | node {path : Text} {projection : Option Document} {v : Value} {children : Population}
      {values : List Value} (hprojection : v = .null ↔ projection = none) (hne : children ≠ [])
      (hchildren : Population.MirroredBy children values) :
      Relation.MirroredBy (.mk path projection children)
        (.document [("path".toList, .string path), ("projection".toList, v),
          ("population".toList, .array values)])

/-- Values mirror relations one by one, in their order. -/
inductive Population.MirroredBy : Population → List Value → Prop
  | nil : Population.MirroredBy [] []
  | cons {r : Relation} {v : Value} {relations : Population} {values : List Value}
      (hfirst : Relation.MirroredBy r v) (hrest : Population.MirroredBy relations values) :
      Population.MirroredBy (r :: relations) (v :: values)

end

mutual

theorem Relation.mirroredBy_through {asValue : Document → Value} (h : ∀ d, asValue d ≠ .null)
    (r : Relation) : Relation.MirroredBy r (r.through asValue) := by
  cases r with
  | mk path projection children =>
    have hprojection := optionalThrough_eq_null_iff h projection
    cases children with
    | nil => exact .leaf hprojection
    | cons child children =>
      have hbelow := Population.mirroredBy_through h (child :: children)
      exact .node hprojection (List.cons_ne_nil _ _) hbelow

/-- **The documents of relations mirror them**, if no projection stands as null. -/
theorem Population.mirroredBy_through {asValue : Document → Value} (h : ∀ d, asValue d ≠ .null)
    (relations : Population) :
    Population.MirroredBy relations (Population.through asValue relations) := by
  cases relations with
  | nil => exact .nil
  | cons r relations =>
    exact .cons (Relation.mirroredBy_through h r) (Population.mirroredBy_through h relations)

end

/-! ## Queries -/

/-- The number that tells a direction: one, or its negative. -/
def SortKey.sign (key : SortKey) : Int32 := if key.direction = .ascending then 1 else -1

theorem SortKey.value_eq (key : SortKey) :
    key.value = .array [.string key.field, .int32 key.sign] := by
  obtain ⟨field, direction⟩ := key
  cases direction <;> rfl

/-- The shape of the document of a query. -/
structure Query.ShapedAs (q : Query) (d : Document) : Prop where
  /-- The relations stand last, where there may be any. -/
  keys : Dict.keys d = ["filter", "sort", "skip", "limit", "projection"].map String.toList ++
    if q.population.isSome then ["population".toList] else []
  unsorted : q.sort = none → Dict.get? "sort".toList d = some .null
  sorted : ∀ keys, q.sort = some keys → Dict.get? "sort".toList d =
    some (.array (keys.map fun key => .array [.string key.field, .int32 key.sign]))
  skip : ∃ n : Int64, Dict.get? "skip".toList d = some (.int64 n) ∧ n.toInt = q.skip
  limit : ∃ n : Int64, Dict.get? "limit".toList d = some (.int64 n) ∧ n.toInt = q.limit
  projection : ∃ v, Dict.get? "projection".toList d = some v ∧ (v = .null ↔ q.projection = none)
  population : ∀ relations, q.population = some relations → ∃ values,
    Dict.get? "population".toList d = some (.array values) ∧
      Population.MirroredBy relations values
  /-- The document is not the form of another value. -/
  kept : reduce d = .document d

theorem Query.shapedAs_through {asValue : Document → Value} (h : ∀ d, asValue d ≠ .null)
    (q : Query) {skip limit : Int64} (hskip : skip.toInt = q.skip)
    (hlimit : limit.toInt = q.limit) :
    q.ShapedAs (q.through asValue (.int64 skip) (.int64 limit)) where
  keys := by
    rw [Query.through, populationThrough]
    cases q.population <;> rfl
  unsorted hsort := by
    rw [Query.through, hsort]
    rfl
  sorted keys hsort := by
    have hvalue : sortValue q.sort =
        .array (keys.map fun key => .array [.string key.field, .int32 key.sign]) := by
      rw [hsort, sortValue, funext SortKey.value_eq]
    rw [← hvalue]
    rfl
  skip := ⟨skip, rfl, hskip⟩
  limit := ⟨limit, rfl, hlimit⟩
  projection := ⟨_, rfl, optionalThrough_eq_null_iff h q.projection⟩
  population relations hrelations := by
    rw [Query.get?_population_through, populationThrough, hrelations]
    exact ⟨_, rfl, Population.mirroredBy_through h relations⟩
  kept := by
    have hkey : "sort".toList ∈ Dict.keys (q.through asValue (.int64 skip) (.int64 limit)) :=
      List.mem_cons_of_mem _ List.mem_cons_self
    exact reduce_eq_document_iff.mpr ⟨rfl, special?_eq_none hkey (by decide)⟩

/-- **The shape of the document of a query**, if there is one. -/
theorem Query.shapedAs_of_toDocument {q : Query} {d : Document} (h : q.toDocument = .ok d) :
    q.ShapedAs d := by
  obtain ⟨skip, limit, hskip, hlimit, rfl⟩ := Query.eq_of_toDocument h
  exact Query.shapedAs_through (fun d => reduce_ne_null _) q hskip hlimit

/-! ## Compiled queries -/

/-- **Compiled queries have documents.** A query has a document just if both bounds fit, and the
first that does not is reported. A compiled query has one, and it tells the relations just if those
are expanded. -/
theorem compile_shaped :
    (∀ (q : Query) (n : Nat), q.toDocument = .error ⟨n⟩ ↔
      maxCount < q.skip ∧ n = q.skip ∨ q.skip ≤ maxCount ∧ maxCount < q.limit ∧ n = q.limit) ∧
    (∀ (q : Query) (d : Document), q.toDocument = .ok d → q.ShapedAs d) ∧
    ∀ (settings : Settings) (query : Text) (q : Query), compile settings query = .ok q →
      (∃ d, q.toDocument = .ok d ∧ q.ShapedAs d) ∧ q.population.isSome = settings.populate := by
  refine ⟨fun q n => Query.toDocument_eq_error_iff, fun q d => Query.shapedAs_of_toDocument, ?_⟩
  intro settings query q hcompile
  obtain ⟨tree, -, hmeans⟩ := means_of_compileArguments hcompile
  obtain ⟨skip, hskip⟩ := exists_countValue hmeans.skip
  obtain ⟨limit, hlimit⟩ := exists_countValue hmeans.limit
  have hdocument := Query.toDocument_eq hskip hlimit
  refine ⟨⟨_, hdocument, Query.shapedAs_of_toDocument hdocument⟩, ?_⟩
  rw [hmeans.population]
  cases settings.populate <;> rfl

/-- A query for a relation below another, for the upper one again, and for fields of both. -/
def shapedQuery : Text :=
  ("state=on&sort=-age,name&skip=2&limit=3&populate=pet.owner,pet,pet" ++
    "&fields=pet.owner.name,-pet.age,mail").toList

/-- What it is compiled to. -/
def shapedResult : Query where
  filter := [("state".toList, .string "on".toList)]
  sort := some [⟨"age".toList, .descending⟩, ⟨"name".toList, .ascending⟩]
  skip := 2
  limit := 3
  projection := some [("mail".toList, .int32 1)]
  population := some [
    .mk "pet".toList (some [("age".toList, .int32 0)])
      [.mk "owner".toList (some [("name".toList, .int32 1)]) []],
    .mk "pet".toList none []]

theorem compile_shaped_pets :
    compile ⟨[], true, []⟩ shapedQuery = .ok shapedResult ∧
      (∃ d, shapedResult.toDocument = .ok d ∧ shapedResult.ShapedAs d ∧
        Dict.get? "sort".toList d = some (.array [.array [.string "age".toList, .int32 (-1)],
          .array [.string "name".toList, .int32 1]])) ∧
      { shapedResult with skip := maxCount + 1 }.toDocument = .error ⟨maxCount + 1⟩ := by
  obtain ⟨herror, -, hcompiled⟩ := compile_shaped
  have hcompile : compile ⟨[], true, []⟩ shapedQuery = .ok shapedResult := rfl
  obtain ⟨⟨d, hd, hshaped⟩, -⟩ := hcompiled _ _ _ hcompile
  refine ⟨hcompile, ⟨d, hd, hshaped, hshaped.sorted _ rfl⟩, (herror _ _).mpr ?_⟩
  exact .inl ⟨Nat.lt_succ_self _, rfl⟩

end DocQuery
