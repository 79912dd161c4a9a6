import DocQuery.Filter.Fragment
import DocQuery.Proofs.Outcome

/-!
# What an argument asks for

An argument asks that a field is there or not, or compares it with a value that is cast from the
text behind the comparison.

* `Fragment.compare_cases`: what a comparison with a list and with any other value comes to.
* **`Fragment.parse_cases`**: an argument that compares is its field, the comparison and the text
  of the value.
-/

namespace DocQuery.Fragment

open Outcome

/-- A list can only be equal or differ. With any other value to be equal is a condition of its own,
and every other comparison is an operator. -/
theorem compare_cases {field : Text} {comparison : Comparison} {v : Value} {condition : Condition}
    (h : compare field comparison v = .ok condition) :
    (∃ items, v = .array items ∧
        (comparison = .equals ∧ condition = .operator inKeyword v ∨
          comparison = .differs ∧ condition = .operator notInKeyword v)) ∨
      (∀ items, v ≠ .array items) ∧
        (comparison = .equals ∧ condition = .equals v ∨
          comparison ≠ .equals ∧ condition = .operator comparison.keyword v) := by
  unfold compare at h
  split at h
  · cases h
    exact .inl ⟨_, rfl, .inl ⟨rfl, rfl⟩⟩
  · cases h
    exact .inl ⟨_, rfl, .inr ⟨rfl, rfl⟩⟩
  · cases h
  · rename_i harray
    cases h
    exact .inr ⟨harray, .inl ⟨rfl, rfl⟩⟩
  · rename_i hcomparison harray _ _
    cases h
    exact .inr ⟨harray, .inr ⟨hcomparison, rfl⟩⟩

/-- **An argument that compares** is its field, the comparison and the text of the value. Any other
one asks whether a field is there. -/
theorem parse_cases {casters : CasterTable} {argument : Text} {fragment : Fragment}
    (h : parse casters argument = .ok fragment) :
    (∃ field b, fragment = present field b) ∨
      ∃ comparison raw v, argument = fragment.field ++ comparison.token ++ raw ∧
        comparison ≠ .absent ∧ casters.cast raw = .ok v ∧
          compare fragment.field comparison v = .ok fragment.condition := by
  unfold parse at h
  split at h
  · exact .inl ⟨_, _, (Except.ok.inj h).symm⟩
  · rename_i comparison _
    split at h
    · exact .inl ⟨_, _, (Except.ok.inj h).symm⟩
    · rename_i field raw hcut
      split at h
      · cases h
      · split at h
        · exact .inl ⟨_, _, (Except.ok.inj h).symm⟩
        · rename_i habsent
          obtain ⟨v, hv, h⟩ := bind_eq_ok.mp h
          obtain ⟨condition, hcondition, h⟩ := bind_eq_ok.mp h
          cases h
          exact .inr ⟨comparison, raw, v, Text.eq_of_cut? hcut, habsent, hv, hcondition⟩

end DocQuery.Fragment
