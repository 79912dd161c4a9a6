import DocQuery.Proofs.Dict.Last
import DocQuery.Proofs.Filter.Operator
import Mathlib.Data.List.DropRight

/-!
# Merged filters in closed form

What a list of fragments is merged to, said field by field. A value to equal ends what was asked of
its field before; the operators that follow it are collected.

* `Fragment.conditionsOn`: the conditions on a field, in order.
* `Condition.recent`, `Condition.base`: the operators after the last value to equal, and those that
  this value holds itself.
* **`get?_foldl_merge`**: fields do not see each other; the conditions on a field tell its value.
* **`operators_foldl_settle`**: the operators of a field are its recent ones, set in the base.
* **`foldl_merge_eq`**: the closed form of a filter whose values to equal hold no operators.
* **`foldl_merge_append_self`**: the same fragments once more change nothing.
-/

namespace DocQuery

/-- The conditions that fragments make on a field, in order. -/
def Fragment.conditionsOn (field : Text) (fragments : List Fragment) : List Condition :=
  (fragments.filter fun fragment => fragment.field = field).map Fragment.condition

/-- Operators as a condition can ask for them: at least one, each begins with a dollar sign, and
none is there twice. -/
structure IsOperators (ops : Document) : Prop where
  ne_nil : ops ≠ []
  dollar : ∀ key ∈ Dict.keys ops, key.head? = some '$'
  nodup : (Dict.keys ops).Nodup

namespace Condition

/-! ## Conditions on a field -/

/-- Whether a condition asks for operators. -/
def asksOperators : Condition → Bool
  | equals _ => false
  | operators _ => true

/-- The operators that a condition asks for. -/
def entries : Condition → Document
  | equals _ => []
  | operators ops => ops

/-- The operators that are asked for after the last value to equal. -/
def recent (conditions : List Condition) : List (Text × Value) :=
  (conditions.rtakeWhile asksOperators).flatMap entries

/-- The operators that the last value to equal holds itself. -/
def base (conditions : List Condition) : Document :=
  match (conditions.rdropWhile asksOperators).getLast? with
  | some (equals v) => v.operators?.getD []
  | _ => []

/-- What conditions on a field come to: the value to equal if that is asked for last, and else the
recent operators, each once with its last value. -/
def settled (conditions : List Condition) : Value :=
  match conditions.getLast? with
  | some (equals v) => v
  | _ => .document (Dict.collapse (recent conditions))

/-- What a condition makes of the value of a field. -/
def settle (before : Option Value) (condition : Condition) : Option Value :=
  some (condition.after (before.bind Value.operators?))

variable {conditions : List Condition}

@[simp]
theorem recent_concat_equals (v : Value) : recent (conditions ++ [equals v]) = [] := by
  rw [recent, List.rtakeWhile_concat_neg _ _ _ Bool.false_ne_true, List.flatMap_nil]

@[simp]
theorem recent_concat_operators (ops : Document) :
    recent (conditions ++ [operators ops]) = recent conditions ++ ops := by
  rw [recent, List.rtakeWhile_concat_pos _ _ _ rfl, List.flatMap_append, List.flatMap_singleton]
  rfl

@[simp]
theorem base_concat_equals (v : Value) :
    base (conditions ++ [equals v]) = v.operators?.getD [] := by
  rw [base, List.rdropWhile_concat_neg _ _ _ Bool.false_ne_true, List.getLast?_concat]

@[simp]
theorem base_concat_operators (ops : Document) :
    base (conditions ++ [operators ops]) = base conditions := by
  rw [base, List.rdropWhile_concat_pos _ _ _ rfl, base]

theorem base_eq_nil (h : ∀ v, equals v ∈ conditions → v.operators? = none) :
    base conditions = [] := by
  induction conditions using List.reverseRecOn with
  | nil => rfl
  | append_singleton conditions condition ih =>
    cases condition with
    | equals v => rw [base_concat_equals, h v (by simp), Option.getD_none]
    | operators ops =>
      rw [base_concat_operators]
      exact ih fun v hv => h v (List.mem_append_left _ hv)

/-! ## The value of a field -/

theorem foldl_settle_concat (condition : Condition) :
    (conditions ++ [condition]).foldl settle none =
      settle (conditions.foldl settle none) condition :=
  List.foldl_append

theorem after_operators {ops : Document} (h : IsOperators ops) (before : Option Document) :
    (operators ops).after before = .document (Dict.insertAll ops (before.getD [])) := by
  cases before with
  | none =>
    have hself : Dict.insertAll ops [] = ops := Dict.ofList_eq_self h.nodup
    rw [after, Option.map_none, Option.getD_none, Option.getD_none, hself]
  | some d => rfl

theorem holdsOperators_insertAll {ops d : Document}
    (hops : ∀ key ∈ Dict.keys ops, key.head? = some '$')
    (hd : d = [] ∨ holdsOperators d = true) (hne : d ≠ [] ∨ ops ≠ []) :
    holdsOperators (Dict.insertAll ops d) = true := by
  induction ops generalizing d with
  | nil =>
    have hd' : d ≠ [] := hne.resolve_right (absurd rfl)
    exact hd.resolve_left hd'
  | cons entry ops ih =>
    obtain ⟨key, v⟩ := entry
    obtain ⟨name, rfl⟩ := List.head?_eq_some_iff.mp (hops key List.mem_cons_self)
    have hinsert : holdsOperators (Dict.insert ('$' :: name) v d) = true :=
      Filter.holdsOperators_insert v hd
    have hfull : Dict.insert ('$' :: name) v d ≠ [] := by
      intro hnil
      rw [hnil] at hinsert
      cases hinsert
    exact ih (fun k hk => hops k (List.mem_cons_of_mem _ hk)) (.inr hinsert) (.inl hfull)

theorem operators?_eq_nil_or (v : Option Value) :
    (v.bind Value.operators?).getD [] = [] ∨
      holdsOperators ((v.bind Value.operators?).getD []) = true := by
  rcases v with _ | v
  · exact .inl rfl
  · cases v with
    | document d =>
      rw [Option.bind_some, Value.operators?]
      split
      · rename_i h
        exact .inr h
      · exact .inl rfl
    | _ => exact .inl rfl

/-- Operators that are asked for join those that the field has. -/
theorem settle_operators {ops : Document} (h : IsOperators ops) (before : Option Value) :
    settle before (operators ops) =
      some (.document (Dict.insertAll ops ((before.bind Value.operators?).getD []))) := by
  rw [settle, after_operators h]

/-- **The operators of a field** are its recent ones, set among those that the last value to equal
holds itself. -/
theorem operators_foldl_settle (h : ∀ ops, operators ops ∈ conditions → IsOperators ops) :
    ((conditions.foldl settle none).bind Value.operators?).getD [] =
      Dict.insertAll (recent conditions) (base conditions) := by
  induction conditions using List.reverseRecOn with
  | nil => rfl
  | append_singleton conditions condition ih =>
    rw [foldl_settle_concat]
    cases condition with
    | equals v =>
      rw [recent_concat_equals, base_concat_equals]
      rfl
    | operators ops =>
      have hops : IsOperators ops := h ops (by simp)
      have hholds := holdsOperators_insertAll hops.dollar
        (operators?_eq_nil_or (conditions.foldl settle none)) (.inr hops.ne_nil)
      rw [settle_operators hops, Option.bind_some, Value.operators?, if_pos hholds,
        Option.getD_some, ih fun ops hmem => h ops (List.mem_append_left _ hmem),
        recent_concat_operators, base_concat_operators, Dict.insertAll_append]

/-- **The value of a field after operators.** -/
theorem foldl_settle_operators {ops : Document}
    (h : ∀ ops', operators ops' ∈ conditions ++ [operators ops] → IsOperators ops') :
    (conditions ++ [operators ops]).foldl settle none =
      some (.document (Dict.insertAll (recent (conditions ++ [operators ops]))
        (base (conditions ++ [operators ops])))) := by
  rw [foldl_settle_concat, settle_operators (h ops (by simp)),
    operators_foldl_settle fun ops hmem => h ops (List.mem_append_left _ hmem),
    recent_concat_operators, base_concat_operators, Dict.insertAll_append]

/-- **What conditions come to** if no value to equal holds operators. -/
theorem foldl_settle_eq (hne : conditions ≠ [])
    (hops : ∀ ops, operators ops ∈ conditions → IsOperators ops)
    (hvalues : ∀ v, equals v ∈ conditions → v.operators? = none) :
    conditions.foldl settle none = some (settled conditions) := by
  obtain ⟨conditions, condition, rfl⟩ := conditions.eq_nil_or_concat'.resolve_left hne
  cases condition with
  | equals v =>
    rw [foldl_settle_concat, settled, List.getLast?_concat]
    rfl
  | operators ops =>
    have hclosed := Dict.ofList_eq_collapse (recent (conditions ++ [operators ops]))
    rw [foldl_settle_operators hops, base_eq_nil hvalues, settled, List.getLast?_concat, ← hclosed]
    rfl

/-! ## Conditions made twice -/

/-- Operators alone come to the same if they are asked for twice. -/
theorem settled_append_self (h : ∀ c ∈ conditions, asksOperators c) :
    settled (conditions ++ conditions) = settled conditions := by
  have hrecent : ∀ l : List Condition, (∀ c ∈ l, asksOperators c) → recent l = l.flatMap entries :=
    fun l hl => by rw [recent, List.rtakeWhile_eq_self_iff.mpr hl]
  have htwice : ∀ c ∈ conditions ++ conditions, asksOperators c := by simpa using h
  rw [settled, settled, hrecent _ h, hrecent _ htwice, List.flatMap_append, List.getLast?_append,
    Option.or_self, ← Dict.ofList_eq_collapse, ← Dict.ofList_eq_collapse, Dict.ofList_append_self]

/-- A value to equal ends what was asked before. -/
theorem foldl_settle_equals (before : Option Value) (conditions after : List Condition)
    (v : Value) : (conditions ++ equals v :: after).foldl settle before = after.foldl settle (some v) := by
  rw [List.foldl_append, List.foldl_cons]
  rfl

/-- **Conditions that are made once more change nothing.** -/
theorem foldl_settle_append_self (h : ∀ ops, operators ops ∈ conditions → IsOperators ops) :
    (conditions ++ conditions).foldl settle none = conditions.foldl settle none := by
  by_cases hvalue : ∃ v, equals v ∈ conditions
  · -- the value to equal ends all that was asked for the first time
    obtain ⟨v, hv⟩ := hvalue
    obtain ⟨before, after, rfl⟩ := List.append_of_mem hv
    rw [← List.append_assoc, foldl_settle_equals, foldl_settle_equals]
  · have hnone : ∀ v, equals v ∉ conditions := fun v hv => hvalue ⟨v, hv⟩
    have hall : ∀ c ∈ conditions, asksOperators c := by
      intro c hc
      cases c with
      | equals v => exact absurd hc (hnone v)
      | operators ops => rfl
    by_cases hne : conditions = []
    · rw [hne, List.append_nil]
    · have htwice : ∀ c, c ∈ conditions ++ conditions → c ∈ conditions := by simp
      rw [foldl_settle_eq (by simp [hne]) (fun ops hmem => h ops (htwice _ hmem))
        (fun v hmem => absurd (htwice _ hmem) (hnone v)), foldl_settle_eq hne h
        (fun v hmem => absurd hmem (hnone v)), settled_append_self hall]

end Condition

namespace Filter

open Fragment Condition

/-- **Fields do not see each other.** The conditions on a field tell its value. -/
theorem get?_foldl_merge (fragments : List Fragment) (field : Text) :
    Dict.get? field (fragments.foldl merge []) =
      (conditionsOn field fragments).foldl settle none := by
  induction fragments using List.reverseRecOn with
  | nil => rfl
  | append_singleton fragments fragment ih =>
    rw [foldl_merge_concat, get?_merge, conditionsOn, List.filter_append, List.map_append]
    by_cases hfield : fragment.field = field
    · have hlast : [fragment].filter (fun f => f.field = field) = [fragment] := by simp [hfield]
      rw [if_pos hfield, operatorsOn?_eq, hfield, ih, hlast, List.map_singleton,
        foldl_settle_concat]
      rfl
    · have hlast : [fragment].filter (fun f => f.field = field) = [] := by simp [hfield]
      rw [if_neg hfield, hlast, List.map_nil, List.append_nil, ih]
      rfl

theorem nodup_keys_foldl_merge (fragments : List Fragment) :
    (Dict.keys (fragments.foldl merge [])).Nodup := by
  induction fragments using List.reverseRecOn with
  | nil => exact List.nodup_nil
  | append_singleton fragments fragment ih =>
    rw [foldl_merge_concat]
    exact Dict.nodup_keys_insert _ _ ih

theorem keys_foldl_merge (fragments : List Fragment) :
    Dict.keys (fragments.foldl merge []) = (fragments.map Fragment.field).eraseDups :=
  Dict.keys_foldl (fun filter fragment => Dict.keys_insert fragment.field _ filter) fragments

theorem mem_conditionsOn {fragments : List Fragment} {field : Text} {condition : Condition} :
    condition ∈ conditionsOn field fragments ↔ ⟨field, condition⟩ ∈ fragments := by
  rw [conditionsOn, List.mem_map]
  constructor
  · rintro ⟨⟨name, condition⟩, hmem, rfl⟩
    obtain ⟨hmem, hname⟩ := List.mem_filter.mp hmem
    rwa [← of_decide_eq_true hname]
  · intro hmem
    exact ⟨_, List.mem_filter.mpr ⟨hmem, decide_eq_true rfl⟩, rfl⟩

/-- **A merged filter in closed form.** Its fields are those of the fragments, each once, in order
of first appearance. A field has the value to equal if that is asked for last, and else the
operators after the last value to equal, each once, in order of first appearance, with its last
value. Here values to equal are no documents of operators. -/
theorem foldl_merge_eq {fragments : List Fragment}
    (hops : ∀ field ops, ⟨field, .operators ops⟩ ∈ fragments → IsOperators ops)
    (hvalues : ∀ field v, ⟨field, .equals v⟩ ∈ fragments → v.operators? = none) :
    fragments.foldl merge [] = (fragments.map Fragment.field).eraseDups.map fun field =>
      (field, settled (conditionsOn field fragments)) := by
  rw [Dict.eq_filterMap_keys (nodup_keys_foldl_merge fragments), keys_foldl_merge,
    List.filterMap_eq_map_iff_forall_eq_some]
  intro field hfield
  obtain ⟨⟨name, condition⟩, hmem, rfl⟩ := List.mem_map.mp (List.mem_eraseDups.mp hfield)
  have hne : conditionsOn name fragments ≠ [] :=
    List.ne_nil_of_mem (mem_conditionsOn.mpr hmem)
  rw [get?_foldl_merge, foldl_settle_eq hne
    (fun ops h => hops name ops (mem_conditionsOn.mp h))
    (fun v h => hvalues name v (mem_conditionsOn.mp h)), Option.map_some]

theorem conditionsOn_append (field : Text) (fragments others : List Fragment) :
    conditionsOn field (fragments ++ others) =
      conditionsOn field fragments ++ conditionsOn field others := by
  rw [conditionsOn, List.filter_append, List.map_append]
  rfl

/-- **Fragments that are merged once more change nothing.** -/
theorem foldl_merge_append_self {fragments : List Fragment}
    (hops : ∀ field ops, ⟨field, .operators ops⟩ ∈ fragments → IsOperators ops) :
    (fragments ++ fragments).foldl merge [] = fragments.foldl merge [] := by
  refine Dict.eq_of_keys_eq (nodup_keys_foldl_merge _) ?_ fun field => ?_
  · have hfields : (fragments.map Fragment.field).removeAll (fragments.map Fragment.field) = [] := by
      simp [List.removeAll]
    rw [keys_foldl_merge, keys_foldl_merge, List.map_append, List.eraseDups_append, hfields,
      List.eraseDups_nil, List.append_nil]
  · rw [get?_foldl_merge, get?_foldl_merge, conditionsOn_append, foldl_settle_append_self]
    exact fun ops h => hops field ops (mem_conditionsOn.mp h)

/-- Fragments on two fields. One is asked to equal two documents, the other has operators before and
after a value to equal. -/
def mixedFragments : List Fragment :=
  [⟨"age".toList, .operators [("$ne".toList, .int64 3)]⟩,
    ⟨"name".toList, .equals (.document [("first".toList, .string "al".toList)])⟩,
    ⟨"age".toList, .equals (.int64 4)⟩,
    ⟨"age".toList, .operators [("$lt".toList, .int64 9), ("$gt".toList, .int64 5)]⟩,
    ⟨"name".toList, .equals (.document [("first".toList, .string "bo".toList)])⟩,
    ⟨"age".toList, .operators [("$in".toList, .null), ("$lt".toList, .int64 8)]⟩]

/-- What they are merged to. -/
def mixedFilter : Document :=
  [("age".toList, .document
      [("$lt".toList, .int64 8), ("$gt".toList, .int64 5), ("$in".toList, .null)]),
    ("name".toList, .document [("first".toList, .string "bo".toList)])]

theorem foldl_merge_eq_mixed :
    (∀ field ops, ⟨field, .operators ops⟩ ∈ mixedFragments → IsOperators ops) ∧
      (∀ field v, ⟨field, .equals v⟩ ∈ mixedFragments → v.operators? = none) ∧
      mixedFragments.foldl merge [] = mixedFilter := by
  have hops : ∀ field ops, ⟨field, .operators ops⟩ ∈ mixedFragments → IsOperators ops := by
    intro field ops h
    simp only [mixedFragments, List.mem_cons, Fragment.mk.injEq, Condition.operators.injEq,
      reduceCtorEq, and_false, false_or, List.not_mem_nil, or_false] at h
    rcases h with ⟨-, rfl⟩ | ⟨-, rfl⟩ | ⟨-, rfl⟩ <;>
      exact ⟨List.cons_ne_nil _ _, by decide, by decide⟩
  have hvalues : ∀ field v, ⟨field, .equals v⟩ ∈ mixedFragments → v.operators? = none := by
    intro field v h
    simp only [mixedFragments, List.mem_cons, Fragment.mk.injEq, Condition.equals.injEq,
      reduceCtorEq, and_false, false_or, List.not_mem_nil, or_false] at h
    rcases h with ⟨-, rfl⟩ | ⟨-, rfl⟩ | ⟨-, rfl⟩ <;> rfl
  exact ⟨hops, hvalues, (foldl_merge_eq hops hvalues).trans rfl⟩

end Filter

end DocQuery
