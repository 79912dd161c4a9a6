import DocQuery.Proofs.Filter.Closed
import DocQuery.Proofs.Literal.Cast

/-!
# The form of filters

A filter asks each of its fields either to equal a single value or to satisfy operators. Each
operator holds values of its own kind, and a merge never mixes the two.

* `forall_mem_foldl_merge`: what fragments ask of a field holds of its entry in the filter.
* `Operand`, `IsAsked`, `Filter.WellFormed`: what operators hold, what a filter asks of a field, and
  the form of a filter.
* `Fragment.isAsked_parse`, `Fragment.isAsked_search`: what arguments ask for.
* **`Filter.wellFormed_foldl_merge`**: merged filters have that form.
-/

namespace DocQuery

open Outcome

/-! ## Entries of a merged filter -/

namespace Filter

variable {P : Text → Value → Prop}

/-- A property of entries is kept by a merge if what a fragment asks of its field has it, alone and
after operators that have it. -/
theorem forall_mem_merge {filter : Document} {fragment : Fragment}
    (hfilter : ∀ field v, (field, v) ∈ filter → P field v)
    (h : ∀ before, (∀ d, before = some d → P fragment.field (.document d)) →
      P fragment.field (fragment.condition.after before)) :
    ∀ field v, (field, v) ∈ merge filter fragment → P field v := by
  intro field v hmem
  rcases Dict.eq_or_mem_of_mem_insert hmem with heq | hmem
  · cases heq
    exact h _ fun d hd => hfilter _ _ (Dict.mem_of_get? (get?_of_operatorsOn? hd))
  · exact hfilter field v hmem

/-- **Entries of a merged filter** have the properties that its fragments give them. -/
theorem forall_mem_foldl_merge {fragments : List Fragment}
    (h : ∀ fragment ∈ fragments, ∀ before,
      (∀ d, before = some d → P fragment.field (.document d)) →
        P fragment.field (fragment.condition.after before)) :
    ∀ field v, (field, v) ∈ fragments.foldl merge [] → P field v := by
  induction fragments using List.reverseRecOn with
  | nil => exact fun _ _ hmem => absurd hmem List.not_mem_nil
  | append_singleton fragments fragment ih =>
    rw [foldl_merge_concat]
    exact forall_mem_merge (ih fun f hf => h f (List.mem_append_left _ hf)) (h fragment (by simp))

end Filter

/-! ## The form -/

/-- Whether a value is neither a list nor a document. -/
def Value.isSingle : Value → Bool
  | array _ | document _ => false
  | _ => true

theorem Value.isSingle_of_ne {v : Value} (harray : ∀ items, v ≠ .array items)
    (hdocument : ∀ d, v ≠ .document d) : v.isSingle = true := by
  cases v with
  | array items => exact absurd rfl (harray items)
  | document d => exact absurd rfl (hdocument d)
  | _ => rfl

/-- The operators that compare a field with a single value. -/
def singleKeywords : List Text :=
  ["$ne".toList, "$gt".toList, "$gte".toList, "$lt".toList, "$lte".toList]

/-- What the operators of a field hold. The lists that may be asked for are told by `IsList`. -/
inductive Operand (IsList : List Value → Prop) (field : Text) : Text → Value → Prop
  | single {key : Text} {v : Value} (hkey : key ∈ singleKeywords) (h : v.isSingle = true) :
    Operand IsList field key v
  | list {key : Text} {items : List Value} (hkey : key ∈ [inKeyword, notInKeyword])
      (h : IsList items) : Operand IsList field key (.array items)
  | presence (b : Bool) : Operand IsList field existsKeyword (.bool b)
  | phrase {phrase : Text} (hfield : field = textKeyword) (h : phrase ≠ []) :
    Operand IsList field searchKeyword (.string phrase)

/-- What a filter asks of a field: to equal a single value, or to satisfy operators, each of which
is there once. -/
inductive IsAsked (IsList : List Value → Prop) (field : Text) : Value → Prop
  | equals {v : Value} (h : v.isSingle = true) : IsAsked IsList field v
  | operators {ops : Document} (hne : ops ≠ []) (hnodup : (Dict.keys ops).Nodup)
      (h : ∀ key v, (key, v) ∈ ops → Operand IsList field key v) :
    IsAsked IsList field (.document ops)

/-- The form of a filter: each field is there once, with what can be asked of it. -/
structure Filter.WellFormed (IsList : List Value → Prop) (filter : Document) : Prop where
  nodup : (Dict.keys filter).Nodup
  isAsked : ∀ field v, (field, v) ∈ filter → IsAsked IsList field v

variable {IsList : List Value → Prop} {field : Text}

theorem Operand.key_mem {key : Text} {v : Value} (h : Operand IsList field key v) :
    key ∈ singleKeywords ++ [inKeyword, notInKeyword, existsKeyword, searchKeyword] := by
  cases h with
  | single hkey => exact List.mem_append_left _ hkey
  | list hkey => exact List.mem_append_right _ (List.mem_append_left [existsKeyword, _] hkey)
  | presence | phrase => decide

theorem IsAsked.operator {key : Text} {v : Value} (h : Operand IsList field key v) :
    IsAsked IsList field ((Condition.operator key v).after none) := by
  refine .operators (List.cons_ne_nil _ _) (List.pairwise_singleton _ _) fun k w hmem => ?_
  cases List.mem_singleton.mp hmem
  exact h

theorem IsAsked.operands {ops : Document} (h : IsAsked IsList field (.document ops)) :
    ops ≠ [] ∧ (Dict.keys ops).Nodup ∧ ∀ key v, (key, v) ∈ ops → Operand IsList field key v := by
  cases h with
  | equals h => cases h
  | operators hne hnodup h => exact ⟨hne, hnodup, h⟩

/-- Operators that join others are still what can be asked for. -/
theorem IsAsked.after {condition : Condition} (h : IsAsked IsList field (condition.after none))
    {before : Option Document}
    (hbefore : ∀ d, before = some d → IsAsked IsList field (.document d)) :
    IsAsked IsList field (condition.after before) := by
  cases condition with
  | equals v => exact h
  | operators ops =>
    cases before with
    | none => exact h
    | some d =>
      obtain ⟨hne, -, hops⟩ := h.operands
      obtain ⟨-, hnodup, hd⟩ := (hbefore d rfl).operands
      obtain ⟨entry, hentry⟩ := List.exists_mem_of_ne_nil _ hne
      have hkey : entry.1 ∈ Dict.keys (Dict.insertAll ops d) :=
        Dict.mem_keys_insertAll.mpr (.inl (List.mem_map_of_mem hentry))
      have hfull : Dict.insertAll ops d ≠ [] := by
        intro hnil
        rw [hnil] at hkey
        exact absurd hkey List.not_mem_nil
      refine .operators hfull (Dict.nodup_keys_insertAll ops hnodup) fun key v hmem => ?_
      rcases Dict.mem_or_mem_of_mem_insertAll hmem with hmem | hmem
      · exact hops key v hmem
      · exact hd key v hmem

/-! ## What arguments ask for -/

theorem CasterTable.cast_ne_document {casters : CasterTable}
    (hcasters : ∀ d, ¬ casters.Makes (.document d)) (raw : Text) (d : Document) :
    casters.cast raw ≠ .ok (.document d) := by
  intro h
  rcases cast_eq_ok_iff.mp h with ⟨_, _, -, -, heq⟩ | ⟨-, htext⟩
  · cases heq
  · rcases castText_eq_ok htext with hliteral | hmade
    · cases hliteral
    · exact hcasters d hmade

theorem Comparison.keyword_mem_singleKeywords {comparison : Comparison}
    (hequals : comparison ≠ .equals) (habsent : comparison ≠ .absent) :
    comparison.keyword ∈ singleKeywords := by
  cases comparison with
  | equals => exact absurd rfl hequals
  | absent => exact absurd rfl habsent
  | _ => decide

/-- **What an argument asks of its field**, if its value is cast to no document and to no list but
those that may be asked for. -/
theorem Fragment.isAsked_parse {casters : CasterTable}
    (hdocument : ∀ raw d, casters.cast raw ≠ .ok (.document d))
    (hlist : ∀ raw items, casters.cast raw = .ok (.array items) → IsList items)
    {argument : Text} {fragment : Fragment} (h : parse casters argument = .ok fragment) :
    IsAsked IsList fragment.field (fragment.condition.after none) := by
  rcases parse_cases h with ⟨field, b, rfl⟩ | ⟨comparison, raw, v, -, habsent, hraw, hcompare⟩
  · exact .operator (.presence b)
  · rcases compare_cases hcompare with ⟨items, rfl, hin⟩ | ⟨harray, hsingle⟩
    · have hitems : IsList items := hlist raw items hraw
      rcases hin with ⟨-, heq⟩ | ⟨-, heq⟩
      · rw [heq]
        exact .operator (.list List.mem_cons_self hitems)
      · rw [heq]
        exact .operator (.list (List.mem_cons_of_mem _ List.mem_cons_self) hitems)
    · have hv : v.isSingle = true :=
        Value.isSingle_of_ne harray fun d heq => hdocument raw d (heq ▸ hraw)
      rcases hsingle with ⟨-, heq⟩ | ⟨hequals, heq⟩
      · rw [heq]
        exact .equals hv
      · rw [heq]
        exact .operator (.single (Comparison.keyword_mem_singleKeywords hequals habsent) hv)

theorem Fragment.isAsked_search {phrase : Text} {fragment : Fragment}
    (h : search phrase = .ok fragment) :
    IsAsked IsList fragment.field (fragment.condition.after none) := by
  unfold search at h
  split at h
  · cases h
  · rename_i hphrase
    cases h
    exact .operator (.phrase rfl (by simpa using hphrase))

/-- **Merged filters are well-formed** if their fragments ask for what can be asked. -/
theorem Filter.wellFormed_foldl_merge {fragments : List Fragment}
    (h : ∀ fragment ∈ fragments,
      IsAsked IsList fragment.field (fragment.condition.after none)) :
    WellFormed IsList (fragments.foldl merge []) where
  nodup := nodup_keys_foldl_merge fragments
  isAsked := forall_mem_foldl_merge fun fragment hfragment _ hbefore =>
    (h fragment hfragment).after hbefore

end DocQuery
