import DocQuery.Literal.Caster
import DocQuery.Proofs.Outcome

/-!
# What casting gives

* `Value.IsLiteral`, **`isLiteral_readLiteral`**: the kinds of values that literals write.
* `castText_eq_ok`: the value of a text is that of a literal or was made by a caster.
* **`cast_eq_ok_iff`**, **`cast_eq_error_iff`**: the strings of a list are cast once more, and a cast
  fails as its text or an item of its list does.
-/

namespace DocQuery

/-- What the value of a literal can be. A list has texts only, and the options of a regular
expression are in order. -/
inductive Value.IsLiteral : Value → Prop
  | int64 (n : Int64) : IsLiteral (.int64 n)
  | double (x : Binary64) : IsLiteral (.double x)
  | dateTime (millis : Int) : IsLiteral (.dateTime millis)
  | words (words : List Text) : IsLiteral (.array (words.map .string))
  | regex (pattern : Text) {options : Text} (h : sortOn Char.toNat options = options) :
      IsLiteral (.regex pattern options)
  | bool (b : Bool) : IsLiteral (.bool b)
  | null : IsLiteral .null
  | string (text : Text) : IsLiteral (.string text)

theorem Pattern.sortOn_options {text : Text} {p : Pattern} (h : read? text = some p) :
    sortOn Char.toNat p.options = p.options := by
  unfold read? at h
  split at h
  · split at h
    · split at h
      · obtain ⟨options, hoptions, rfl⟩ := Option.map_eq_some_iff.mp h
        unfold ofFlags? at hoptions
        split at hoptions
        · cases hoptions
          exact sortOn_eq_self (sortOn_pairwise _ _)
        · cases hoptions
      · cases h
    · cases h
  · cases h

/-- Each rule writes values of its own kind. -/
theorem Rule.isLiteral_read? {rule : Rule} {text : Text} {v : Value}
    (h : rule.read? text = some v) : v.IsLiteral := by
  cases rule with
  | integer =>
    obtain ⟨n, -, rfl⟩ := Option.map_eq_some_iff.mp h
    exact .int64 n
  | float =>
    obtain ⟨x, -, rfl⟩ := Option.map_eq_some_iff.mp h
    exact .double x
  | dateTime =>
    obtain ⟨millis, -, rfl⟩ := Option.map_eq_some_iff.mp h
    exact .dateTime millis
  | wordList =>
    obtain ⟨words, -, rfl⟩ := Option.map_eq_some_iff.mp h
    exact .words words
  | pattern =>
    obtain ⟨p, hp, rfl⟩ := Option.map_eq_some_iff.mp h
    exact .regex p.source (Pattern.sortOn_options hp)
  | word =>
    rw [read?] at h
    unfold readWord? at h
    simp only at h
    split at h
    · cases h
      exact .bool true
    · split at h
      · cases h
        exact .bool false
      · split at h
        · cases h
          exact .null
        · cases h

/-- **What a literal writes** is of one of these kinds. -/
theorem isLiteral_readLiteral (text : Text) : (readLiteral text).IsLiteral := by
  unfold readLiteral readBy
  cases hread : Rule.all.findSome? (·.read? text) with
  | none => exact .string text
  | some v =>
    obtain ⟨rule, -, hrule⟩ := List.exists_of_findSome?_eq_some hread
    exact Rule.isLiteral_read? hrule

namespace CasterTable

open Outcome

/-- Whether a value is one that a caster made. -/
def Makes (casters : CasterTable) (v : Value) : Prop :=
  ∃ name caster inner, (name, caster) ∈ casters ∧ caster inner = .ok v

variable {casters : CasterTable}

/-- A text has the value of a literal or one that a caster made. -/
theorem castText_eq_ok {text : Text} {v : Value} (h : castText casters text = .ok v) :
    v.IsLiteral ∨ casters.Makes v := by
  unfold castText at h
  split at h
  · rename_i name caster inner hclaim
    obtain ⟨⟨name', caster'⟩, hmem, hinner⟩ := List.exists_of_findSome?_eq_some hclaim
    obtain ⟨inner', -, heq⟩ := Option.map_eq_some_iff.mp hinner
    cases heq
    exact .inr ⟨name, caster, inner, hmem, mapError_eq_ok.mp h⟩
  · cases h
    exact .inl (isLiteral_readLiteral text)

/-- An item of a list is left or is cast from a string. -/
theorem castItem_eq_ok {v w : Value} (h : castItem casters v = .ok w) :
    w = v ∨ ∃ text, castText casters text = .ok w := by
  unfold castItem at h
  split at h
  · exact .inr ⟨_, h⟩
  · cases h
    exact .inl rfl

section Cast

variable {text : Text} {v : Value} {e : QueryError}

theorem cast_of_array {items : List Value} (h : castText casters text = .ok (.array items)) :
    cast casters text = (items.mapM (castItem casters)).map .array := by
  rw [cast, h]
  change items.mapM (castItem casters) >>= _ = _
  cases items.mapM (castItem casters) <;> rfl

theorem cast_of_ne_array (h : castText casters text = .ok v) (hv : ∀ items, v ≠ .array items) :
    cast casters text = .ok v := by
  rw [cast, h]
  cases v with
  | array items => exact absurd rfl (hv items)
  | _ => rfl

/-- **The items of a list are cast once more**, and any other value is left. -/
theorem cast_eq_ok_iff :
    cast casters text = .ok v ↔
      (∃ items items', castText casters text = .ok (.array items) ∧
          items.mapM (castItem casters) = .ok items' ∧ v = .array items') ∨
        (∀ items, v ≠ .array items) ∧ castText casters text = .ok v := by
  constructor
  · intro h
    unfold cast at h
    obtain ⟨w, hw, h⟩ := bind_eq_ok.mp h
    split at h
    · rename_i items
      obtain ⟨items', hitems, h⟩ := bind_eq_ok.mp h
      cases h
      exact .inl ⟨items, items', hw, hitems, rfl⟩
    · rename_i harray
      cases h
      exact .inr ⟨harray, hw⟩
  · rintro (⟨items, items', htext, hitems, rfl⟩ | ⟨harray, htext⟩)
    · rw [cast_of_array htext, hitems]
      rfl
    · exact cast_of_ne_array htext harray

/-- **A cast fails** as its text does or as an item of its list does. -/
theorem cast_eq_error_iff :
    cast casters text = .error e ↔
      castText casters text = .error e ∨
        ∃ items, castText casters text = .ok (.array items) ∧
          items.mapM (castItem casters) = .error e := by
  constructor
  · intro h
    unfold cast at h
    rcases bind_eq_error.mp h with h | ⟨w, hw, h⟩
    · exact .inl h
    · split at h
      · rename_i items
        rcases bind_eq_error.mp h with h | ⟨items', -, h⟩
        · exact .inr ⟨items, hw, h⟩
        · cases h
      · cases h
  · rintro (htext | ⟨items, htext, hitems⟩)
    · rw [cast, htext]
      rfl
    · rw [cast_of_array htext, hitems]
      rfl

end Cast

end CasterTable

end DocQuery
