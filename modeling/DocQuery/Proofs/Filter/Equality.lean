import DocQuery.Proofs.Filter.Closed
import DocQuery.Proofs.Literal.Cast

/-!
# Operators after a value to equal

Operators on a field replace a value that was asked for before, unless this value is itself a
document of operators. Only a caster can make such a value.

* `Fragment.operatorsOn`: the operators of a field, entry by entry.
* `makes_of_equals`: where a document of operators as a value to equal comes from.
* **`foldl_merge_after_equals`**: what is left of the value, and when nothing is.
* `not_replaced_operators`: a value to equal that operators do not replace.
-/

namespace DocQuery

open Outcome

/-- The operators that fragments ask of a field, entry by entry. -/
def Fragment.operatorsOn (field : Text) (fragments : List Fragment) : List (Text × Value) :=
  (conditionsOn field fragments).flatMap Condition.entries

theorem IsOperators.single (name : Text) (v : Value) : IsOperators [('$' :: name, v)] where
  ne_nil := List.cons_ne_nil _ _
  dollar := by simp [Dict.keys]
  nodup := List.pairwise_singleton _ _

theorem Condition.Single.isOperators {ops : Document} (h : (Condition.operators ops).Single) :
    IsOperators ops := by
  cases h with
  | operator name v => exact .single name v

/-! ## Where a value to equal comes from -/

theorem Value.IsLiteral.operators?_eq_none {v : Value} (h : v.IsLiteral) : v.operators? = none := by
  cases h <;> rfl

/-- A value that is compared for equality is the one that was cast. -/
theorem Fragment.cast_of_equals {casters : CasterTable} {argument : Text} {fragment : Fragment}
    {v : Value} (h : parse casters argument = .ok fragment) (hv : fragment.condition = .equals v) :
    ∃ raw, casters.cast raw = .ok v := by
  rcases parse_eq_ok h with ⟨field, b, rfl⟩ | ⟨raw, w, hraw, heq | ⟨keyword, -, heq⟩⟩
  · cases hv
  · rw [heq] at hv
    cases hv
    exact ⟨raw, hraw⟩
  · rw [heq] at hv
    cases hv

/-- **A value to equal that is a document of operators was made by a caster.** -/
theorem Fragment.makes_of_equals {casters : CasterTable} {argument field : Text} {v : Value}
    (h : parse casters argument = .ok ⟨field, .equals v⟩) (hops : v.operators? ≠ none) :
    casters.Makes v := by
  obtain ⟨raw, hcast⟩ := cast_of_equals h rfl
  rcases CasterTable.cast_eq_ok_iff.mp hcast with ⟨items, items', -, -, rfl⟩ | ⟨-, htext⟩
  · exact absurd rfl hops
  · rcases CasterTable.castText_eq_ok htext with hliteral | hmade
    · exact absurd hliteral.operators?_eq_none hops
    · exact hmade

/-! ## Operators behind the last value to equal -/

namespace Condition

variable {before after : List Condition} {v : Value}

/-- Nothing but operators stands behind the last value to equal. -/
theorem asksOperators_of_not_mem (h : ∀ w, equals w ∉ after) : ∀ c ∈ after, c.asksOperators := by
  intro c hc
  cases c with
  | equals w => exact absurd hc (h w)
  | operators ops => rfl

theorem reverse_append_equals (before after : List Condition) (v : Value) :
    (before ++ equals v :: after).reverse = after.reverse ++ equals v :: before.reverse := by
  simp

theorem recent_after_equals (before : List Condition) (v : Value) (h : ∀ w, equals w ∉ after) :
    recent (before ++ equals v :: after) = after.flatMap entries := by
  have hafter : ∀ c ∈ after.reverse, asksOperators c = true :=
    fun c hc => asksOperators_of_not_mem h c (List.mem_reverse.mp hc)
  rw [recent, List.rtakeWhile, reverse_append_equals, List.takeWhile_append_of_pos hafter,
    List.takeWhile_cons_of_neg Bool.false_ne_true, List.append_nil, List.reverse_reverse]

theorem base_after_equals (before : List Condition) (v : Value) (h : ∀ w, equals w ∉ after) :
    base (before ++ equals v :: after) = v.operators?.getD [] := by
  have hafter : ∀ c ∈ after.reverse, asksOperators c = true :=
    fun c hc => asksOperators_of_not_mem h c (List.mem_reverse.mp hc)
  rw [base, List.rdropWhile, reverse_append_equals, List.dropWhile_append_of_pos hafter,
    List.dropWhile_cons_of_neg Bool.false_ne_true, List.getLast?_reverse, List.head?_cons]

/-- **The value of a field whose last value to equal is followed by operators.** They are set among
those that the value holds itself. -/
theorem foldl_settle_after_equals
    (hops : ∀ ops, operators ops ∈ before ++ equals v :: after → IsOperators ops)
    (hlast : ∀ w, equals w ∉ after) (hne : after ≠ []) :
    (before ++ equals v :: after).foldl settle none =
      some (.document (Dict.insertAll (after.flatMap entries) (v.operators?.getD []))) := by
  obtain ⟨after', condition, rfl⟩ := after.eq_nil_or_concat'.resolve_left hne
  have hcondition := asksOperators_of_not_mem hlast condition (by simp)
  cases condition with
  | equals w => cases hcondition
  | operators ops =>
    rw [← recent_after_equals before v hlast, ← base_after_equals before v hlast]
    rw [← List.cons_append, ← List.append_assoc] at hops ⊢
    exact foldl_settle_operators hops

end Condition

/-- Insertions leave just what was inserted if they set all the keys that were there. -/
theorem Dict.get?_insertAll_eq_last?_iff {entries : List (Text × Value)} {d : Document} :
    (∀ key, get? key (insertAll entries d) = last? key entries) ↔
      ∀ key ∈ keys d, key ∈ keys entries := by
  constructor
  · intro h key hkey
    by_contra hout
    have hlast : last? key entries = none := by
      rw [← Option.not_isSome_iff_eq_none, isSome_last?]
      exact hout
    have hvalue := h key
    rw [get?_insertAll, hlast, Option.none_or, get?_eq_none_iff] at hvalue
    exact hvalue hkey
  · intro h key
    rw [get?_insertAll]
    by_cases hkey : key ∈ keys d
    · obtain ⟨v, hv⟩ := Option.isSome_iff_exists.mp (isSome_last?.mpr (h key hkey))
      rw [hv, Option.some_or]
    · rw [get?_eq_none_iff.mpr hkey, Option.or_none]

namespace Filter

open Fragment

theorem conditionsOn_append_cons (field : Text) (before after : List Fragment)
    (condition : Condition) :
    conditionsOn field (before ++ ⟨field, condition⟩ :: after) =
      conditionsOn field before ++ condition :: conditionsOn field after := by
  simp [conditionsOn]

/-- **What is left of a value to equal when operators follow.** The operators on a field that come
after the last value to equal are set among those that this value holds itself. So the field holds
just the operators that follow if and only if these set every operator of the value; that is so if
the value is no document of operators, and then they are there in their order. A value that is one
was made by a caster. -/
theorem foldl_merge_after_equals {casters : CasterTable} {before after : List Fragment}
    {field : Text} {v : Value}
    (hparse : ∀ fragment ∈ before ++ ⟨field, .equals v⟩ :: after,
      ∃ argument, Fragment.parse casters argument = .ok fragment)
    (hlast : ∀ w, ⟨field, .equals w⟩ ∉ after) (hops : ∃ ops, ⟨field, .operators ops⟩ ∈ after) :
    ∃ result,
      Dict.get? field ((before ++ ⟨field, .equals v⟩ :: after).foldl merge []) =
        some (.document result) ∧
      result = Dict.insertAll (operatorsOn field after) (v.operators?.getD []) ∧
      ((∀ key, Dict.get? key result = Dict.last? key (operatorsOn field after)) ↔
        ∀ key ∈ Dict.keys (v.operators?.getD []), key ∈ Dict.keys (operatorsOn field after)) ∧
      (v.operators? = none → result = Dict.collapse (operatorsOn field after)) ∧
      (v.operators? ≠ none → casters.Makes v) := by
  have hsingle : ∀ ops, .operators ops ∈
      conditionsOn field (before ++ ⟨field, .equals v⟩ :: after) → IsOperators ops := by
    intro ops hmem
    obtain ⟨argument, hargument⟩ := hparse _ (mem_conditionsOn.mp hmem)
    exact (single_parse hargument).isOperators
  have hlast' : ∀ w, Condition.equals w ∉ conditionsOn field after :=
    fun w hmem => hlast w (mem_conditionsOn.mp hmem)
  have hne : conditionsOn field after ≠ [] := by
    obtain ⟨ops, hmem⟩ := hops
    exact List.ne_nil_of_mem (mem_conditionsOn.mpr hmem)
  rw [conditionsOn_append_cons] at hsingle
  refine ⟨_, ?_, rfl, Dict.get?_insertAll_eq_last?_iff, ?_, ?_⟩
  · rw [get?_foldl_merge, conditionsOn_append_cons]
    exact Condition.foldl_settle_after_equals hsingle hlast' hne
  · intro hnone
    rw [hnone]
    exact Dict.ofList_eq_collapse _
  · obtain ⟨argument, hargument⟩ := hparse ⟨field, .equals v⟩ (by simp)
    exact makes_of_equals hargument

/-- A caster that makes a document of operators. -/
def boundCaster : CasterTable :=
  [("above".toList, fun inner => .ok (.document [("$gt".toList, .string inner)]))]

/-- Its value to equal. -/
def boundFragment : Fragment :=
  ⟨"age".toList, .equals (.document [("$gt".toList, .string "5".toList)])⟩

/-- An upper bound that is no value to equal. -/
def belowFragment : Fragment := ⟨"age".toList, .operator "$lt".toList (.int64 7)⟩

/-- A lower bound that is no value to equal. -/
def aboveFragment : Fragment := ⟨"age".toList, .operator "$gt".toList (.int64 3)⟩

theorem parse_boundFragment :
    Fragment.parse boundCaster "age=above(5)".toList = .ok boundFragment := rfl

theorem parse_belowFragment : Fragment.parse boundCaster "age<7".toList = .ok belowFragment := rfl

theorem parse_aboveFragment : Fragment.parse boundCaster "age>3".toList = .ok aboveFragment := rfl

theorem foldl_merge_after_equals_bounds :
    Fragment.parse boundCaster "age<7".toList = .ok belowFragment ∧
      Fragment.parse boundCaster "age=above(5)".toList = .ok boundFragment ∧
      Fragment.parse boundCaster "age>3".toList = .ok aboveFragment ∧
      ∃ result,
        Dict.get? "age".toList
          ([belowFragment, boundFragment, belowFragment, aboveFragment].foldl merge []) =
            some (.document result) ∧
        result = [("$gt".toList, .int64 3), ("$lt".toList, .int64 7)] ∧
        ∀ key, Dict.get? key result =
          Dict.last? key (operatorsOn "age".toList [belowFragment, aboveFragment]) := by
  have hparse : ∀ fragment ∈ [belowFragment] ++ boundFragment :: [belowFragment, aboveFragment],
      ∃ argument, Fragment.parse boundCaster argument = .ok fragment := by
    intro fragment hmem
    simp only [List.singleton_append, List.mem_cons, List.not_mem_nil, or_false] at hmem
    rcases hmem with rfl | rfl | rfl | rfl
    · exact ⟨_, parse_belowFragment⟩
    · exact ⟨_, parse_boundFragment⟩
    · exact ⟨_, parse_belowFragment⟩
    · exact ⟨_, parse_aboveFragment⟩
  have hlast : ∀ w, (⟨"age".toList, .equals w⟩ : Fragment) ∉ [belowFragment, aboveFragment] := by
    intro w hmem
    simp [belowFragment, aboveFragment, Condition.operator] at hmem
  have hops : ∃ ops, (⟨"age".toList, .operators ops⟩ : Fragment) ∈ [belowFragment, aboveFragment] :=
    ⟨_, List.mem_cons_self⟩
  obtain ⟨result, hget, hresult, hjust, -, -⟩ := foldl_merge_after_equals hparse hlast hops
  exact ⟨parse_belowFragment, parse_boundFragment, parse_aboveFragment, result, hget, hresult,
    hjust.mpr (by decide)⟩

/-- A value to equal that operators join and do not replace. -/
theorem not_replaced_operators :
    Fragment.parse boundCaster "age=above(5)".toList = .ok boundFragment ∧
      Fragment.parse boundCaster "age<7".toList = .ok belowFragment ∧
      Dict.get? "age".toList ([boundFragment, belowFragment].foldl merge []) =
        some (.document [("$gt".toList, .string "5".toList), ("$lt".toList, .int64 7)]) ∧
      ∀ result,
        Dict.get? "age".toList ([boundFragment, belowFragment].foldl merge []) =
          some (.document result) →
        ¬ ∀ key, Dict.get? key result =
          Dict.last? key (operatorsOn "age".toList [belowFragment]) := by
  have hget : Dict.get? "age".toList ([boundFragment, belowFragment].foldl merge []) =
      some (.document [("$gt".toList, .string "5".toList), ("$lt".toList, .int64 7)]) := rfl
  refine ⟨parse_boundFragment, parse_belowFragment, hget, fun result hresult hsame => ?_⟩
  rw [hget] at hresult
  cases hresult
  cases hsame "$gt".toList

end Filter

end DocQuery
