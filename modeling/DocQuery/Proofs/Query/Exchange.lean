import DocQuery.Proofs.Relation.Exchange

/-!
# Exchanging queries

An exchange of a query goes through its document, in which the filter and each projection come out
by themselves and all else as it is.

* `Query.through`: the document of a query in which the filter and the projections stand as some
  values.
* `maxCount`, `exists_countValue_of_le`, `countValue_of_lt`: which numbers fit.
* **`Query.toDocument_eq`**: what is exchanged, if the bounds fit.
* **`Query.toDocument_eq_error_iff`**: the only failure is a bound that does not.
* `Query.eq_of_toDocument`: what a document tells of its query.
-/

namespace DocQuery

/-! ## The document of a query -/

/-- The values of relations that may be missing, in which a projection stands as some value. -/
def populationThrough (asValue : Document → Value) (population : Option Population) :
    Option Value :=
  population.map fun relations => .array (relations.through asValue)

theorem populationThrough_eq_iff {f g : Document → Value} {population : Option Population} :
    populationThrough f population = populationThrough g population ↔
      ∀ relations ∈ population.toList, ∀ p ∈ relations.projections, f p = g p := by
  cases population with
  | none => simp [populationThrough]
  | some relations => simp [populationThrough, Population.through_eq_iff]

/-- The document of a query, in which the filter and the projections stand as some values, and the
bounds as given ones. -/
def Query.through (asValue : Document → Value) (q : Query) (skip limit : Value) : Document :=
  [("filter".toList, asValue q.filter), ("sort".toList, sortValue q.sort), ("skip".toList, skip),
      ("limit".toList, limit), ("projection".toList, optionalThrough asValue q.projection)] ++
    (populationThrough asValue q.population).toList.map fun v => ("population".toList, v)

theorem Query.get?_population_through (asValue : Document → Value) (q : Query)
    (skip limit : Value) :
    Dict.get? "population".toList (q.through asValue skip limit) =
      populationThrough asValue q.population := by
  rw [through]
  cases populationThrough asValue q.population <;> rfl

/-- What the document of a query tells is told by what the filter and the projections stand as. -/
theorem Query.through_congr {f g : Document → Value} {q : Query} (skip limit : Value)
    (hfilter : f q.filter = g q.filter) (hprojection : ∀ p ∈ q.projection.toList, f p = g p)
    (hpopulation : ∀ relations ∈ q.population.toList, ∀ p ∈ relations.projections, f p = g p) :
    q.through f skip limit = q.through g skip limit := by
  rw [through, through, hfilter, optionalThrough_eq_iff.mpr hprojection,
    populationThrough_eq_iff.mpr hpopulation]

/-! ## Bounds -/

/-- The largest number that fits into 64 bits with a sign. -/
def maxCount : Nat := 0x7fffffffffffffff

theorem exists_countValue_of_le {n : Nat} (h : n ≤ maxCount) :
    ∃ k : Int64, countValue n = .ok (.int64 k) ∧ k.toInt = n := by
  have hlt : (n : Int) < 0x8000000000000000 := by
    rw [maxCount] at h
    omega
  have hle : -0x8000000000000000 ≤ (n : Int) := by omega
  have hfits : toInt64? n = some (Int64.ofInt n) := by rw [toInt64?, if_pos ⟨hle, hlt⟩]
  refine ⟨Int64.ofInt n, ?_, Int64.toInt_ofInt_of_le hle hlt⟩
  rw [countValue, hfits, Option.elim_some]

theorem countValue_of_lt {n : Nat} (h : maxCount < n) : countValue n = .error ⟨n⟩ := by
  have hout : ¬ (-0x8000000000000000 ≤ (n : Int) ∧ (n : Int) < 0x8000000000000000) := by
    rw [maxCount] at h
    omega
  rw [countValue, toInt64?, if_neg hout]
  rfl

/-! ## Exchange -/

/-- **What is exchanged of a query** is its document, with the filter and the projections
exchanged. -/
theorem Query.toDocument_eq {q : Query} {skip limit : Value}
    (hskip : countValue q.skip = .ok skip) (hlimit : countValue q.limit = .ok limit) :
    q.toDocument = .ok (q.through exchanged skip limit) := by
  rw [Query.toDocument, hskip, hlimit, optionalDocument_eq_through, Query.through]
  cases hpopulation : q.population with
  | none => rfl
  | some relations =>
    rw [populationThrough, Option.map_some, ← relationValues_eq_through]
    rfl

/-- **When an exchange fails.** The first bound that is too large is reported. -/
theorem Query.toDocument_eq_error_iff {q : Query} {n : Nat} :
    q.toDocument = .error ⟨n⟩ ↔
      maxCount < q.skip ∧ n = q.skip ∨ q.skip ≤ maxCount ∧ maxCount < q.limit ∧ n = q.limit := by
  rcases Nat.lt_or_ge maxCount q.skip with hskip | hskip
  · have herror : q.toDocument = .error ⟨q.skip⟩ := by
      rw [Query.toDocument, countValue_of_lt hskip]
      rfl
    simp only [herror, Except.error.injEq, TooLarge.mk.injEq]
    omega
  · obtain ⟨skip, hfirst, -⟩ := exists_countValue_of_le hskip
    rcases Nat.lt_or_ge maxCount q.limit with hlimit | hlimit
    · have herror : q.toDocument = .error ⟨q.limit⟩ := by
        rw [Query.toDocument, hfirst, countValue_of_lt hlimit]
        rfl
      simp only [herror, Except.error.injEq, TooLarge.mk.injEq]
      omega
    · obtain ⟨limit, hsecond, -⟩ := exists_countValue_of_le hlimit
      refine iff_of_false (fun herror => ?_) (by omega)
      rw [Query.toDocument_eq hfirst hsecond] at herror
      cases herror

/-- An exchanged document tells the bounds of its query, and what the filter and the projections
are exchanged for. -/
theorem Query.eq_of_toDocument {q : Query} {d : Document} (h : q.toDocument = .ok d) :
    ∃ skip limit : Int64, skip.toInt = q.skip ∧ limit.toInt = q.limit ∧
      d = q.through exchanged (.int64 skip) (.int64 limit) := by
  -- a bound that is too large would be reported
  have hreported : ∀ n, ¬(maxCount < q.skip ∧ n = q.skip ∨
      q.skip ≤ maxCount ∧ maxCount < q.limit ∧ n = q.limit) := by
    intro n hn
    rw [Query.toDocument_eq_error_iff.mpr hn] at h
    cases h
  have hfirst := hreported q.skip
  have hsecond := hreported q.limit
  obtain ⟨skip, hskip, hskipInt⟩ := exists_countValue_of_le (n := q.skip) (by omega)
  obtain ⟨limit, hlimit, hlimitInt⟩ := exists_countValue_of_le (n := q.limit) (by omega)
  rw [Query.toDocument_eq hskip hlimit] at h
  exact ⟨skip, limit, hskipInt, hlimitInt, (Except.ok.inj h).symm⟩

end DocQuery
