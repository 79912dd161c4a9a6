import DocQuery.Proofs.Compile.Arguments
import DocQuery.Proofs.Compile.Run
import DocQuery.Proofs.Dict.Last
import DocQuery.Proofs.Filter.Written

/-!
# Written queries

Clauses on distinct fields can be written as a query string, and compiling it gives them back.

* `merge_of_not_mem`: the first fragment on a field is appended to a filter.
* **`apply_written`**, `foldlM_written`: what the arguments of clauses do to a query.
* **`compile_written`**: a query string of clauses is compiled to the filter of their entries.
-/

namespace DocQuery

theorem Filter.merge_of_not_mem {filter : Document} {fragment : Fragment}
    (h : fragment.field ∉ Dict.keys filter) :
    merge filter fragment = filter ++ [(fragment.field, fragment.condition.after none)] := by
  rw [merge, operatorsOn?, Dict.get?_eq_none_iff.mpr h, Dict.insert_eq_append _ h]

/-- **The argument of a clause** on a new field appends the entry of the clause. -/
theorem apply_written (clause : Clause) {q : Query} (h : clause.field.text ∉ Dict.keys q.filter) :
    Query.apply [] q clause.written = .ok { q with filter := q.filter ++ [clause.entry] } := by
  obtain ⟨condition, hparse, hcondition⟩ := clause.parse_written
  rw [Query.apply, clause.ofArgument?_written]
  simp only [hparse]
  change Except.ok { q with filter := Filter.merge q.filter ⟨clause.field.text, condition⟩ } = _
  rw [Filter.merge_of_not_mem h, hcondition]
  rfl

theorem foldlM_written {clauses : List Clause} {q : Query}
    (h : (Dict.keys (q.filter ++ clauses.map Clause.entry)).Nodup) :
    (clauses.map Clause.written).foldlM (Query.apply []) q =
      .ok { q with filter := q.filter ++ clauses.map Clause.entry } := by
  induction clauses generalizing q with
  | nil =>
    rw [List.map_nil, List.map_nil, List.append_nil]
    rfl
  | cons clause clauses ih =>
    have hnew : clause.field.text ∉ Dict.keys q.filter := by
      intro hmem
      rw [Dict.keys_append, List.nodup_append] at h
      exact h.2.2 _ hmem _ List.mem_cons_self rfl
    rw [List.map_cons, List.append_cons] at h
    rw [List.map_cons, List.map_cons, List.foldlM_cons, apply_written clause hnew,
      List.append_cons q.filter clause.entry (clauses.map Clause.entry)]
    refine ih ?_
    exact h

/-- No clause asks for relations. -/
theorem requestedPopulation_written (clauses : List Clause) :
    requestedPopulation (clauses.map Clause.written) = .ok [] := by
  have hnone : (clauses.map Clause.written).filterMap relationList? = [] := by
    refine List.filterMap_eq_nil_iff.mpr fun argument hargument => ?_
    obtain ⟨clause, -, rfl⟩ := List.mem_map.mp hargument
    rw [relationList?, clause.ofArgument?_written]
  rw [requestedPopulation, hnone]
  rfl

theorem startQuery_written (populate : Bool) (clauses : List Clause) :
    startQuery { populate := populate } (clauses.map Clause.written) =
      .ok { population := if populate then some [] else none } := by
  rw [startQuery, requestedPopulation_written]
  cases populate <;> rfl

theorem arguments_written (populate : Bool) (clauses : List Clause) :
    arguments { populate := populate } (written (clauses.map Clause.written)) =
      clauses.map Clause.written := by
  rw [arguments, allArguments_written]
  · exact List.filter_eq_self.mpr fun _ _ => rfl
  · intro argument hargument
    obtain ⟨clause, -, rfl⟩ := List.mem_map.mp hargument
    exact ⟨clause.written_ne_nil, clause.separator_not_mem_written⟩

/-- **Compiling undoes writing.** Clauses on distinct fields that are written as a query string are
compiled to the filter with their entries, in order. Nothing else is asked for, and no relation is
expanded. -/
theorem compile_written (populate : Bool) {clauses : List Clause}
    (h : (clauses.map fun clause => clause.field.text).Nodup) :
    compile { populate := populate } (written (clauses.map Clause.written)) =
      .ok { filter := clauses.map Clause.entry,
            population := if populate then some [] else none } := by
  have hkeys : (Dict.keys (clauses.map Clause.entry)).Nodup := by
    rw [Dict.keys, List.map_map]
    exact h
  rw [compile, arguments_written, compileArguments, startQuery_written]
  exact foldlM_written hkeys

/-- Clauses of each kind. -/
def writtenClauses : List Clause := [
  ⟨⟨"price".toList, by decide, by decide, by decide⟩,
    .comparison .atLeast (by decide) (.integer Int64.minValue)⟩,
  ⟨⟨"rate".toList, by decide, by decide, by decide⟩,
    .comparison .equals (by decide) (.text ⟨"50% off".toList, by decide, rfl⟩)⟩,
  ⟨⟨"tag".toList, by decide, by decide, by decide⟩,
    .membership false ⟨["5".toList, "none".toList, "Al_1".toList], by decide, by decide⟩⟩,
  ⟨⟨"pet.name".toList, by decide, by decide, by decide⟩, .presence true⟩,
  ⟨⟨"sort_by".toList, by decide, by decide, by decide⟩, .presence false⟩,
  ⟨⟨"done".toList, by decide, by decide, by decide⟩,
    .comparison .differs (by decide) (.flag true)⟩]

/-- How they are written. -/
def writtenQuery : Text :=
  "price>=-9223372036854775808&rate=50%25 off&tag!=5,none,Al_1&pet.name&!sort_by&done!=true".toList

/-- The filter that they make. -/
def writtenFilter : Document := [
  ("price".toList, .document [("$gte".toList, .int64 Int64.minValue)]),
  ("rate".toList, .string "50% off".toList),
  ("tag".toList, .document [
    ("$nin".toList, .array [.int64 5, .null, .string "Al_1".toList])]),
  ("pet.name".toList, .document [("$exists".toList, .bool true)]),
  ("sort_by".toList, .document [("$exists".toList, .bool false)]),
  ("done".toList, .document [("$ne".toList, .bool true)])]

theorem compile_written_kinds :
    (writtenClauses.map fun clause => clause.field.text).Nodup ∧
      written (writtenClauses.map Clause.written) = writtenQuery ∧
      compile { populate := true } writtenQuery =
        .ok { filter := writtenFilter, population := some [] } := by
  have hnodup : (writtenClauses.map fun clause => clause.field.text).Nodup := by decide
  have hwritten : written (writtenClauses.map Clause.written) = writtenQuery := by decide
  refine ⟨hnodup, hwritten, ?_⟩
  rw [← hwritten]
  exact compile_written true hnodup

end DocQuery
