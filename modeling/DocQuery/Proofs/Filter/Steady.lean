import DocQuery.Proofs.Filter.Operator
import DocQuery.Proofs.Literal.Cast
import DocQuery.Proofs.Value.Steady

/-!
# Filters that an exchange leaves as they are

Where casters make steady values, so does casting, and each field of a filter has a steady value.
The filter as a whole is left as it is unless its own keys make it the form of another value.

* `CasterTable.Steady`, `steady_cast`: casting gives steady values.
* `Condition.Steady`, `steady_parse`, `steady_search`: conditions of arguments. Operators have a key
  that no form has, and keep it whatever joins them.
* **`Filter.steady_foldl_merge`**: the values of a merged filter.
-/

namespace DocQuery

open Outcome

/-! ## Casting -/

theorem Value.IsLiteral.steady {v : Value} (h : v.IsLiteral) : v.Steady := by
  cases h with
  | words words =>
    refine steady_array_iff.mpr fun v hv => ?_
    obtain ⟨text, -, rfl⟩ := List.mem_map.mp hv
    rfl
  | @regex pattern options hoptions =>
    have hsteady := steady_regex pattern options
    rwa [sortedOptions, hoptions] at hsteady
  | _ => rfl

/-- The values that casters make are left as they are. -/
def CasterTable.Steady (casters : CasterTable) : Prop := ∀ v, casters.Makes v → v.Steady

namespace CasterTable

variable {casters : CasterTable}

theorem steady_of_isPlain (h : ∀ v, casters.Makes v → v.isPlain = true) : casters.Steady :=
  fun v hmade => Value.steady_of_isPlain (h v hmade)

theorem steady_castText (hcasters : casters.Steady) {text : Text} {v : Value}
    (h : castText casters text = .ok v) : v.Steady := by
  rcases castText_eq_ok h with hliteral | hmade
  · exact hliteral.steady
  · exact hcasters v hmade

/-- **What is cast is left as it is.** -/
theorem steady_cast (hcasters : casters.Steady) {text : Text} {v : Value}
    (h : cast casters text = .ok v) : v.Steady := by
  rcases cast_eq_ok_iff.mp h with ⟨items, items', hlist, hitems, rfl⟩ | ⟨-, htext⟩
  · refine steady_array_iff.mpr fun w hw => ?_
    obtain ⟨v, hv, hitem⟩ := mem_of_mapM hitems hw
    rcases castItem_eq_ok hitem with rfl | ⟨text, htext⟩
    · exact steady_array_iff.mp (steady_castText hcasters hlist) w hv
    · exact steady_castText hcasters htext
  · exact steady_castText hcasters htext

end CasterTable

/-! ## Conditions -/

/-- A condition that is left as it is, as a value in a filter. Operators have a key that no form
has, so that they are not the form of a value even with others. -/
inductive Condition.Steady : Condition → Prop
  | equals {v : Value} (h : v.Steady) : Steady (.equals v)
  | operators {ops : Document} (h : SteadyEntries ops) {key : Text} (hkey : key ∈ Dict.keys ops)
      (hform : key ∉ formKeys) : Steady (.operators ops)

theorem Condition.Steady.operator {keyword : Text} (hform : keyword ∉ formKeys) {v : Value}
    (h : v.Steady) : Steady (.operator keyword v) := by
  refine .operators (fun entry hentry => ?_) List.mem_cons_self hform
  rw [List.mem_singleton.mp hentry]
  exact h

theorem Fragment.steady_parse {casters : CasterTable} (hcasters : casters.Steady)
    {argument : Text} {fragment : Fragment} (h : parse casters argument = .ok fragment) :
    fragment.condition.Steady := by
  rcases parse_eq_ok h with ⟨field, b, rfl⟩ | ⟨raw, v, hraw, heq | ⟨keyword, hkeyword, heq⟩⟩
  · exact .operator (by decide) rfl
  · rw [heq]
    exact .equals (CasterTable.steady_cast hcasters hraw)
  · have hform : ∀ keyword ∈ Comparison.keywords, keyword ∉ formKeys := by decide
    rw [heq]
    exact .operator (hform keyword hkeyword) (CasterTable.steady_cast hcasters hraw)

theorem Fragment.steady_search {phrase : Text} {fragment : Fragment}
    (h : search phrase = .ok fragment) : fragment.condition.Steady := by
  unfold search at h
  split at h
  · cases h
  · cases h
    exact .operator (by decide) rfl

/-! ## Merging -/

theorem Condition.Steady.after {condition : Condition} (h : condition.Steady)
    {before : Option Document} (hbefore : ∀ d, before = some d → SteadyEntries d) :
    (condition.after before).Steady := by
  cases h with
  | equals hv => exact hv
  | @operators ops hops key hkey hform =>
    rw [Condition.after, steady_document_iff]
    cases before with
    | none => exact ⟨hops, special?_eq_none hkey hform⟩
    | some d =>
      -- the operators that were there may have keys of forms, but not this one
      have hjoined : key ∈ Dict.keys (Dict.insertAll ops d) :=
        Dict.mem_keys_insertAll.mpr (.inl hkey)
      exact ⟨(hbefore d rfl).insertAll hops, special?_eq_none hjoined hform⟩

namespace Filter

theorem steadyEntries_of_operatorsOn? {filter ops : Document} (h : SteadyEntries filter)
    {field : Text} (hops : operatorsOn? filter field = some ops) : SteadyEntries ops := by
  have hmem := Dict.mem_of_get? (get?_of_operatorsOn? hops)
  exact (steady_document_iff.mp (h _ hmem)).1

/-- **A merged fragment leaves the values of a filter steady.** -/
theorem steady_merge {filter : Document} (h : SteadyEntries filter) {fragment : Fragment}
    (hfragment : fragment.condition.Steady) : SteadyEntries (merge filter fragment) :=
  h.insert (hfragment.after fun _ hops => steadyEntries_of_operatorsOn? h hops)

/-- **The values of a merged filter are steady.** -/
theorem steady_foldl_merge {fragments : List Fragment}
    (h : ∀ fragment ∈ fragments, fragment.condition.Steady) {filter : Document}
    (hfilter : SteadyEntries filter) : SteadyEntries (fragments.foldl merge filter) := by
  induction fragments generalizing filter with
  | nil => exact hfilter
  | cons fragment fragments ih =>
    obtain ⟨hfragment, hrest⟩ := List.forall_mem_cons.mp h
    exact ih hrest (steady_merge hfilter hfragment)

end Filter

end DocQuery
