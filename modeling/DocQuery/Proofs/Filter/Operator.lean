import DocQuery.Filter.Merge
import DocQuery.Proofs.Filter.Argument
import Mathlib.Data.List.Induction
import Mathlib.Data.Option.Basic

/-!
# Operators of a merged filter

A fragment asks a field to equal a value or to satisfy one operator. What a merged filter says about
an operator of a field is told by those fragments on the field that ask for a value or for that
operator, and by the last of them alone.

* `Condition.Single`, `Fragment.settles`.
* `parse_eq_ok`: what an argument asks for.
* **`operator?_merge`**, **`operator?_foldl`**: what a fragment, and a list of fragments, says about
  an operator.
* `get?_eq_some_iff`: without operators, the last fragment tells the value.
* **`sameFilter_foldl`**: fragments that come in the same order wherever they settle the same
  operator make the same filter.
-/

namespace DocQuery

/-! ## Conditions of one operator -/

/-- A condition that an argument can make: a value to equal, or one operator. -/
inductive Condition.Single : Condition → Prop
  | equals (v : Value) : Single (.equals v)
  | operator (key : Text) (v : Value) : Single (.operators [('$' :: key, v)])

/-- Whether a condition has a say in an operator. A value to equal has it in every operator. -/
def Condition.settles (key : Text) : Condition → Bool
  | equals _ => true
  | operators ops => (Dict.keys ops).contains key

/-- Whether a fragment has a say in an operator of a field. -/
def Fragment.settles (field key : Text) (fragment : Fragment) : Bool :=
  decide (fragment.field = field) && fragment.condition.settles key

/-- The operators of a value. -/
def Value.operators? : Value → Option Document
  | .document ops => if holdsOperators ops then some ops else none
  | _ => none

/-- What a condition by itself says about an operator. -/
def Condition.operator? (key : Text) : Condition → Option Value
  | equals v => v.operators?.bind (Dict.get? key)
  | operators ops => Dict.get? key ops

/-- What a filter says about an operator of a field. -/
def Filter.operator? (filter : Document) (field key : Text) : Option Value :=
  (Filter.operatorsOn? filter field).bind (Dict.get? key)

/-- The keywords with which a value is compared. -/
def Comparison.keywords : List Text := [inKeyword, notInKeyword] ++ all.map keyword

theorem Comparison.keyword_mem_keywords (c : Comparison) : c.keyword ∈ keywords := by
  cases c <;> decide

theorem Fragment.compare_eq_ok {field : Text} {comparison : Comparison} {v : Value}
    {condition : Condition} (h : compare field comparison v = .ok condition) :
    condition = .equals v ∨ ∃ keyword ∈ Comparison.keywords, condition = .operator keyword v := by
  rcases compare_cases h with ⟨_, -, ⟨-, heq⟩ | ⟨-, heq⟩⟩ | ⟨-, ⟨-, heq⟩ | ⟨-, heq⟩⟩
  · exact .inr ⟨inKeyword, by decide, heq⟩
  · exact .inr ⟨notInKeyword, by decide, heq⟩
  · exact .inl heq
  · exact .inr ⟨comparison.keyword, comparison.keyword_mem_keywords, heq⟩

/-- **What an argument asks for:** that a field is there or not, or how it compares with a value
that is cast. -/
theorem Fragment.parse_eq_ok {casters : CasterTable} {argument : Text} {fragment : Fragment}
    (h : parse casters argument = .ok fragment) :
    (∃ field b, fragment = present field b) ∨
      ∃ raw v, casters.cast raw = .ok v ∧
        (fragment.condition = .equals v ∨
          ∃ keyword ∈ Comparison.keywords, fragment.condition = .operator keyword v) := by
  rcases parse_cases h with hpresent | ⟨comparison, raw, v, -, -, hraw, hcompare⟩
  · exact .inl hpresent
  · exact .inr ⟨raw, v, hraw, compare_eq_ok hcompare⟩

theorem Fragment.single_parse {casters : CasterTable} {argument : Text} {fragment : Fragment}
    (h : parse casters argument = .ok fragment) : fragment.condition.Single := by
  rcases parse_eq_ok h with ⟨field, b, rfl⟩ | ⟨raw, v, -, heq | ⟨keyword, hkeyword, heq⟩⟩
  · exact .operator _ _
  · rw [heq]
    exact .equals v
  · have hdollar : ∀ keyword ∈ Comparison.keywords, keyword.head? = some '$' := by decide
    obtain ⟨name, rfl⟩ := List.head?_eq_some_iff.mp (hdollar keyword hkeyword)
    rw [heq]
    exact .operator name v

theorem Fragment.single_search {phrase : Text} {fragment : Fragment}
    (h : search phrase = .ok fragment) : fragment.condition.Single := by
  unfold search at h
  split at h
  · cases h
  · cases h
    exact .operator _ _

/-! ## Merging a fragment -/

namespace Filter

theorem operatorsOn?_eq (filter : Document) (field : Text) :
    operatorsOn? filter field = (Dict.get? field filter).bind Value.operators? := by
  unfold operatorsOn?
  rcases Dict.get? field filter with _ | v
  · rfl
  · cases v <;> rfl

theorem holdsOperators_of_operatorsOn? {filter ops : Document} {field : Text}
    (h : operatorsOn? filter field = some ops) : holdsOperators ops = true := by
  unfold operatorsOn? at h
  split at h
  · split at h
    · rename_i hops
      cases h
      exact hops
    · cases h
  · cases h

theorem get?_of_operatorsOn? {filter ops : Document} {field : Text}
    (h : operatorsOn? filter field = some ops) :
    Dict.get? field filter = some (.document ops) := by
  unfold operatorsOn? at h
  split at h
  · rename_i hget
    split at h
    · cases h
      exact hget
    · cases h
  · cases h

theorem holdsOperators_insert {key : Text} (v : Value) {ops : Document}
    (h : ops = [] ∨ holdsOperators ops = true) :
    holdsOperators (Dict.insert ('$' :: key) v ops) = true := by
  rcases h with rfl | h
  · rfl
  · rcases ops with _ | ⟨⟨_ | ⟨c, k⟩, w⟩, rest⟩
    · cases h
    · cases h
    · rw [Dict.insert]
      split
      · rfl
      · exact h

theorem get?_merge (filter : Document) (fragment : Fragment) (field : Text) :
    Dict.get? field (merge filter fragment) =
      if fragment.field = field then
        some (fragment.condition.after (operatorsOn? filter fragment.field))
      else Dict.get? field filter :=
  Dict.get?_insert ..

theorem operatorsOn?_merge_of_ne {filter : Document} {fragment : Fragment} {field : Text}
    (h : fragment.field ≠ field) :
    operatorsOn? (merge filter fragment) field = operatorsOn? filter field := by
  rw [operatorsOn?_eq, get?_merge, if_neg h, ← operatorsOn?_eq]

theorem operatorsOn?_merge_equals (filter : Document) (field : Text) (v : Value) :
    operatorsOn? (merge filter ⟨field, .equals v⟩) field = v.operators? := by
  rw [operatorsOn?_eq, get?_merge, if_pos rfl]
  rfl

/-- An operator is set among those that the field has. -/
theorem operatorsOn?_merge_operator (filter : Document) (field key : Text) (v : Value) :
    operatorsOn? (merge filter ⟨field, .operators [('$' :: key, v)]⟩) field =
      some (Dict.insert ('$' :: key) v ((operatorsOn? filter field).getD [])) := by
  have hafter : (Condition.operators [('$' :: key, v)]).after (operatorsOn? filter field) =
      .document (Dict.insert ('$' :: key) v ((operatorsOn? filter field).getD [])) := by
    cases operatorsOn? filter field <;> rfl
  have hholds : (operatorsOn? filter field).getD [] = [] ∨
      holdsOperators ((operatorsOn? filter field).getD []) = true := by
    cases hops : operatorsOn? filter field with
    | none => exact .inl rfl
    | some ops => exact .inr (holdsOperators_of_operatorsOn? hops)
  rw [operatorsOn?_eq, get?_merge, if_pos rfl, Option.bind_some, hafter, Value.operators?,
    if_pos (holdsOperators_insert v hholds)]

/-- **What a fragment says about an operator.** It tells the operator by itself or has no say. -/
theorem operator?_merge (filter : Document) {fragment : Fragment}
    (h : fragment.condition.Single) (field key : Text) :
    operator? (merge filter fragment) field key =
      if fragment.settles field key then fragment.condition.operator? key
      else operator? filter field key := by
  obtain ⟨name, condition⟩ := fragment
  by_cases hfield : name = field
  · subst hfield
    cases h with
    | equals v =>
      rw [operator?, operatorsOn?_merge_equals]
      simp [Fragment.settles, Condition.settles, Condition.operator?]
    | operator k v =>
      rw [operator?, operatorsOn?_merge_operator, Option.bind_some, Dict.get?_insert]
      by_cases hkey : '$' :: k = key
      · subst hkey
        simp [Fragment.settles, Condition.settles, Condition.operator?, Dict.keys, Dict.get?]
      · have hout : key ≠ '$' :: k := Ne.symm hkey
        rw [if_neg hkey]
        simp only [Fragment.settles, Condition.settles, Dict.keys, List.map_cons, List.map_nil,
          List.contains_eq_mem, List.mem_singleton, hout]
        rw [operator?]
        cases operatorsOn? filter name <;> rfl
  · rw [operator?, operatorsOn?_merge_of_ne hfield]
    simp [Fragment.settles, hfield, operator?]

/-! ## Merging a list of fragments -/

theorem foldl_merge_concat (fragments : List Fragment) (fragment : Fragment) :
    (fragments ++ [fragment]).foldl merge [] = merge (fragments.foldl merge []) fragment :=
  List.foldl_append

theorem filter_settles_concat (fragments : List Fragment) (fragment : Fragment)
    (field key : Text) :
    (fragments ++ [fragment]).filter (Fragment.settles field key) =
      fragments.filter (Fragment.settles field key) ++
        if fragment.settles field key then [fragment] else [] := by
  rw [List.filter_append]
  congr 1
  cases h : fragment.settles field key <;> simp [h]

/-- **What a list of fragments says about an operator.** The last one that settles it tells it. -/
theorem operator?_foldl {fragments : List Fragment}
    (h : ∀ fragment ∈ fragments, fragment.condition.Single) (field key : Text) :
    operator? (fragments.foldl merge []) field key =
      (fragments.filter (Fragment.settles field key)).getLast?.bind fun fragment =>
        fragment.condition.operator? key := by
  -- from the end of the list, since the last fragment has the last say
  induction fragments using List.reverseRecOn with
  | nil => rfl
  | append_singleton fragments fragment ih =>
    have hlast : fragment.condition.Single := h fragment (by simp)
    have hinit := ih fun f hf => h f (List.mem_append_left _ hf)
    rw [foldl_merge_concat, operator?_merge _ hlast, filter_settles_concat, hinit]
    split <;> simp

/-- **What a list of fragments says about a field that has no operators.** The last one that
settles something tells the value. -/
theorem get?_eq_some_iff {fragments : List Fragment}
    (h : ∀ fragment ∈ fragments, fragment.condition.Single) {field : Text} (key : Text)
    (hnone : operatorsOn? (fragments.foldl merge []) field = none) (v : Value) :
    Dict.get? field (fragments.foldl merge []) = some v ↔
      ∃ fragment, (fragments.filter (Fragment.settles field key)).getLast? = some fragment ∧
        fragment.condition = .equals v := by
  induction fragments using List.reverseRecOn with
  | nil => simp [Dict.get?]
  | append_singleton fragments fragment ih =>
    have hlast : fragment.condition.Single := h fragment (by simp)
    obtain ⟨name, condition⟩ := fragment
    rw [foldl_merge_concat] at hnone ⊢
    rw [filter_settles_concat, get?_merge]
    by_cases hfield : name = field
    · subst hfield
      cases hlast with
      | equals w =>
        have hsettles : Fragment.settles name key ⟨name, .equals w⟩ = true := by
          simp [Fragment.settles, Condition.settles]
        rw [hsettles, if_pos rfl, if_pos rfl]
        simp [Condition.after]
      | operator k w =>
        rw [operatorsOn?_merge_operator] at hnone
        cases hnone
    · rw [operatorsOn?_merge_of_ne hfield] at hnone
      have hsettles : Fragment.settles field key ⟨name, condition⟩ = false := by
        simp [Fragment.settles, hfield]
      rw [hsettles, if_neg hfield, if_neg Bool.false_ne_true, List.append_nil]
      exact ih (fun f hf => h f (List.mem_append_left _ hf)) hnone

end Filter

/-! ## Filters that are the same -/

/-- Two values are the same, but operators may come in another order. -/
def SameCondition (v w : Value) : Prop :=
  v = w ∨ ∃ d e, v = .document d ∧ w = .document e ∧ holdsOperators d = true ∧
    holdsOperators e = true ∧ ∀ key, Dict.get? key d = Dict.get? key e

/-- Two filters are the same, but fields, and the operators of a field, may come in another
order. -/
def SameFilter (filter filter' : Document) : Prop :=
  ∀ field, Option.Rel SameCondition (Dict.get? field filter) (Dict.get? field filter')

theorem isSome_operatorsOn?_iff {filter : Document} {field : Text} :
    (Filter.operatorsOn? filter field).isSome ↔
      ∃ key, (Filter.operator? filter field key).isSome := by
  unfold Filter.operator?
  cases h : Filter.operatorsOn? filter field with
  | none => simp
  | some ops =>
    have hholds := Filter.holdsOperators_of_operatorsOn? h
    rcases ops with _ | ⟨⟨key, v⟩, rest⟩
    · cases hholds
    · exact ⟨fun _ => ⟨key, by simp [Dict.get?]⟩, fun _ => rfl⟩

/-- Two filters are the same on a field if they say the same about each operator and, without
operators, have the same value. -/
theorem rel_sameCondition {filter filter' : Document} {field : Text}
    (hops : ∀ key, Filter.operator? filter field key = Filter.operator? filter' field key)
    (hvalue : Filter.operatorsOn? filter field = none → Filter.operatorsOn? filter' field = none →
      Dict.get? field filter = Dict.get? field filter') :
    Option.Rel SameCondition (Dict.get? field filter) (Dict.get? field filter') := by
  have hsome : (Filter.operatorsOn? filter field).isSome =
      (Filter.operatorsOn? filter' field).isSome := by
    rw [Bool.eq_iff_iff, isSome_operatorsOn?_iff, isSome_operatorsOn?_iff]
    simp only [hops]
  cases h : Filter.operatorsOn? filter field with
  | none =>
    rw [h, Option.isSome_none, eq_comm, Option.isSome_eq_false_iff, Option.isNone_iff_eq_none]
      at hsome
    rw [hvalue h hsome]
    cases Dict.get? field filter' with
    | none => exact .none
    | some v => exact .some (.inl rfl)
  | some d =>
    rw [h, Option.isSome_some, eq_comm, Option.isSome_iff_exists] at hsome
    obtain ⟨e, he⟩ := hsome
    rw [Filter.get?_of_operatorsOn? h, Filter.get?_of_operatorsOn? he]
    refine .some (.inr ⟨d, e, rfl, rfl, Filter.holdsOperators_of_operatorsOn? h,
      Filter.holdsOperators_of_operatorsOn? he, fun key => ?_⟩)
    have hkey := hops key
    rwa [Filter.operator?, Filter.operator?, h, he] at hkey

/-- **Fragments that come in the same order wherever they settle the same operator make the same
filter.** -/
theorem sameFilter_foldl {fragments fragments' : List Fragment}
    (h : ∀ fragment ∈ fragments, fragment.condition.Single)
    (h' : ∀ fragment ∈ fragments', fragment.condition.Single)
    (hsettles : ∀ field key, fragments'.filter (Fragment.settles field key) =
      fragments.filter (Fragment.settles field key)) :
    SameFilter (fragments.foldl Filter.merge []) (fragments'.foldl Filter.merge []) := by
  intro field
  refine rel_sameCondition (fun key => ?_) fun hnone hnone' => ?_
  · rw [Filter.operator?_foldl h, Filter.operator?_foldl h', hsettles]
  · ext v
    rw [Filter.get?_eq_some_iff h [] hnone, Filter.get?_eq_some_iff h' [] hnone', hsettles]

end DocQuery
