import DocQuery.Json.Value

/-!
# Trees that have values

* `Json.fits`: every integer in a tree fits a word of 64 bits.
* **`Json.isSome_value?`**: among sound trees these are the ones that have a value.
-/

namespace DocQuery.Json

mutual

/-- Whether every integer in a tree fits a word of 64 bits. -/
def fits : Json → Bool
  | .null => true
  | .bool _ => true
  | .number negative d =>
    match numberOf? negative d with
    | some (.integer n) => (toInt64? n).isSome
    | _ => true
  | .string _ => true
  | .array items => allFit items
  | .object entries => allFitEntries entries

/-- Whether every integer in the items fits a word of 64 bits. -/
def allFit : List Json → Bool
  | [] => true
  | v :: rest => fits v && allFit rest

/-- Whether every integer in the values fits a word of 64 bits. -/
def allFitEntries : List (Option Text × Json) → Bool
  | [] => true
  | (_, v) :: rest => fits v && allFitEntries rest

end

mutual

/-- **A sound tree has a value** just if every integer in it fits a word of 64 bits. -/
theorem isSome_value? : ∀ {depth : Nat} {v : Json}, v.isSound depth = true →
    v.value?.isSome = v.fits
  | _, .null, _ => rfl
  | _, .bool _, _ => rfl
  | _, .number negative d, h => by
    obtain ⟨n, hn⟩ := Option.isSome_iff_exists.mp h
    rw [value?, fits, hn]
    cases n with
    | integer n => rw [Option.isSome_map]
    | double x => rfl
  | _, .string text, h => by
    rw [value?, fits, Option.isSome_map]
    exact h
  | _ + 1, .array items, h => by
    rw [value?, fits, Option.isSome_map, isSome_values? h]
  | _ + 1, .object entries, h => by
    rw [value?, fits, Option.isSome_map, isSome_entries? h]

theorem isSome_values? : ∀ {depth : Nat} {items : List Json}, areSound depth items = true →
    (values? items).isSome = allFit items
  | _, [], _ => rfl
  | depth, v :: rest, h => by
    rw [areSound, Bool.and_eq_true] at h
    rw [allFit, ← isSome_value? h.1, ← isSome_values? h.2, values?]
    cases value? v <;> cases values? rest <;> rfl

theorem isSome_entries? : ∀ {depth : Nat} {entries : List (Option Text × Json)},
    areSoundEntries depth entries = true → (entries? entries).isSome = allFitEntries entries
  | _, [], _ => rfl
  | depth, (some key, v) :: rest, h => by
    rw [areSoundEntries, Bool.and_eq_true, Bool.and_eq_true] at h
    rw [allFitEntries, ← isSome_value? h.1.2, ← isSome_entries? h.2, entries?]
    cases value? v <;> cases entries? rest <;> rfl

end

end DocQuery.Json
