import DocQuery.Proofs.Filter.Form
import DocQuery.Proofs.Value.Steady

/-!
# Values that are not the form of others

A document that tells no form by its keys is left as it is by an exchange, however deep it stands.

* `filterKeywords`, `isOrdinaryKey`: keys that do not begin with a dollar sign, or are the keyword
  of a filter.
* `Value.isOrdinary`: values whose documents have such keys only.
* **`Value.steady_of_isOrdinary`**: an exchange leaves these values as they are.
-/

namespace DocQuery

/-- The keywords of filters. -/
def filterKeywords : List Text :=
  singleKeywords ++ [inKeyword, notInKeyword, existsKeyword, textKeyword, searchKeyword]

/-- Whether a key does not begin with a dollar sign, or is the keyword of a filter. -/
def isOrdinaryKey (key : Text) : Bool := key.head? != some '$' || filterKeywords.contains key

mutual

/-- Whether a value is a number, a truth value, null, a string, a date or a regular expression with
its options in order, or is made of such values by arrays and documents with ordinary keys. -/
def Value.isOrdinary : Value → Bool
  | .int32 _ | .int64 _ | .double _ | .bool _ | .null | .string _ | .dateTime _ => true
  | .regex _ options => sortedOptions options = options
  | .array items => areOrdinary items
  | .document entries => areOrdinaryEntries entries
  | _ => false

/-- Whether all items are ordinary. -/
def areOrdinary : List Value → Bool
  | [] => true
  | v :: rest => v.isOrdinary && areOrdinary rest

/-- Whether all keys and all their values are ordinary. -/
def areOrdinaryEntries : List (Text × Value) → Bool
  | [] => true
  | (key, v) :: rest => isOrdinaryKey key && v.isOrdinary && areOrdinaryEntries rest

end

/-- An ordinary key tells no form. -/
theorem not_mem_formKeys {key : Text} (h : isOrdinaryKey key = true) : key ∉ formKeys := by
  have hforms : ∀ k ∈ formKeys, isOrdinaryKey k = false := by decide
  intro hkey
  rw [hforms key hkey] at h
  cases h

/-- A document with ordinary keys is not the form of another value. -/
theorem special?_eq_none_of_ordinary {entries : Document}
    (h : areOrdinaryEntries entries = true) : special? entries = none := by
  cases entries with
  | nil => rfl
  | cons entry entries =>
    rw [areOrdinaryEntries, Bool.and_eq_true, Bool.and_eq_true] at h
    have hfirst : entry.1 ∈ Dict.keys (entry :: entries) := List.mem_cons_self
    exact special?_eq_none hfirst (not_mem_formKeys h.1.1)

mutual

/-- **An exchange leaves ordinary values as they are.** -/
theorem Value.steady_of_isOrdinary {v : Value} (h : v.isOrdinary = true) : v.Steady := by
  cases v with
  | array items => exact steady_array_iff.mpr (steady_of_areOrdinary h)
  | document entries =>
    exact steady_document_iff.mpr ⟨steadyEntries_of_ordinary h, special?_eq_none_of_ordinary h⟩
  | regex pattern options => exact congrArg (Value.regex pattern) (of_decide_eq_true h)
  | codeWithScope source scope => cases h
  | _ => rfl

theorem steady_of_areOrdinary {items : List Value} (h : areOrdinary items = true) :
    ∀ v ∈ items, v.Steady := by
  cases items with
  | nil => exact fun _ hv => absurd hv List.not_mem_nil
  | cons v items =>
    rw [areOrdinary, Bool.and_eq_true] at h
    exact List.forall_mem_cons.mpr ⟨Value.steady_of_isOrdinary h.1, steady_of_areOrdinary h.2⟩

theorem steadyEntries_of_ordinary {entries : List (Text × Value)}
    (h : areOrdinaryEntries entries = true) : SteadyEntries entries := by
  cases entries with
  | nil => exact .nil
  | cons entry entries =>
    rw [areOrdinaryEntries, Bool.and_eq_true, Bool.and_eq_true] at h
    exact List.forall_mem_cons.mpr
      ⟨Value.steady_of_isOrdinary h.1.2, steadyEntries_of_ordinary h.2⟩

end

end DocQuery
