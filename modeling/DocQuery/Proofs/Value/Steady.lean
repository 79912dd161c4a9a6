import DocQuery.Json.Value
import DocQuery.Proofs.Value.Form

/-!
# Values that an exchange leaves as they are

An exchange reduces a value once. What is reduced stays as it is from then on.

* `Value.Steady`, `SteadyEntries`: reducing changes nothing.
* `steady_of_isPlain`: values without documents.
* **`steady_document_iff`**: when reducing leaves a document as it is.
* `steady_reduce`: what a document is reduced to stays as it is.
* **`steady_value?`**: the values of JSON trees are reduced.
-/

namespace DocQuery

/-- Reducing leaves a value as it is. -/
def Value.Steady (v : Value) : Prop := v.reduced = v

/-- Reducing leaves the values of entries as they are. -/
def SteadyEntries (entries : List (Text × Value)) : Prop := ∀ entry ∈ entries, entry.2.Steady

theorem reducedItems_eq_map (items : List Value) :
    reducedItems items = items.map Value.reduced := by
  induction items with
  | nil => rfl
  | cons v items ih => rw [reducedItems, ih, List.map_cons]

theorem reducedEntries_eq_map (entries : List (Text × Value)) :
    reducedEntries entries = entries.map fun entry => (entry.1, entry.2.reduced) := by
  induction entries with
  | nil => rfl
  | cons entry entries ih =>
    obtain ⟨key, v⟩ := entry
    rw [reducedEntries, ih, List.map_cons]

theorem reducedEntries_eq_self_iff {entries : List (Text × Value)} :
    reducedEntries entries = entries ↔ SteadyEntries entries := by
  have hself : reducedEntries entries = entries ↔
      (entries.map fun entry => (entry.1, entry.2.reduced)) = entries.map id := by
    rw [reducedEntries_eq_map, List.map_id]
  rw [hself, List.map_inj_left]
  exact forall₂_congr fun entry _ => ⟨congrArg Prod.snd, congrArg (entry.1, ·)⟩

theorem steady_array_iff {items : List Value} :
    (Value.array items).Steady ↔ ∀ v ∈ items, v.Steady := by
  have hself : (Value.array items).Steady ↔ items.map Value.reduced = items.map id := by
    rw [Value.Steady, Value.reduced, Value.array.injEq, reducedItems_eq_map, List.map_id]
  rw [hself, List.map_inj_left]
  rfl

theorem steady_int32 (n : Int32) : (Value.int32 n).Steady := rfl

theorem steady_regex (pattern options : Text) :
    (Value.regex pattern (sortedOptions options)).Steady := by
  rw [Value.Steady, Value.reduced, sortedOptions_sortedOptions]

/-! ## Values without documents -/

mutual

theorem Value.steady_of_isPlain {v : Value} (h : v.isPlain = true) : v.Steady := by
  cases v with
  | document entries => cases h
  | codeWithScope source scope => cases h
  | array items => exact steady_array_iff.mpr (steady_of_arePlain h)
  | regex pattern options => exact congrArg (Value.regex pattern) (of_decide_eq_true h)
  | _ => rfl

theorem steady_of_arePlain {items : List Value} (h : arePlain items = true) :
    ∀ v ∈ items, v.Steady := by
  cases items with
  | nil => exact fun _ hv => absurd hv List.not_mem_nil
  | cons v items =>
    rw [arePlain, Bool.and_eq_true] at h
    exact List.forall_mem_cons.mpr ⟨Value.steady_of_isPlain h.1, steady_of_arePlain h.2⟩

end

/-! ## Documents -/

/-- **Reducing leaves a document as it is** just if it leaves its values and the document is not the
form of another value. -/
theorem steady_document_iff {d : Document} :
    (Value.document d).Steady ↔ SteadyEntries d ∧ special? d = none := by
  rw [Value.Steady, Value.reduced, reduce_eq_document_iff, reducedEntries_eq_self_iff]
  refine and_congr_right fun hentries => ?_
  rw [reducedEntries_eq_self_iff.mpr hentries]

theorem reduced_document {d : Document} (h : SteadyEntries d) :
    (Value.document d).reduced = reduce d := by
  rw [Value.reduced, reducedEntries_eq_self_iff.mpr h]

/-- Code keeps its scope where the scope is left as it is. -/
theorem steady_codeWithScope (source : Text) {scope : Document}
    (h : (Value.document scope).Steady) : (Value.codeWithScope source scope).Steady := by
  rw [Value.Steady, Value.reduced] at h
  rw [Value.Steady, Value.reduced, h]
  rfl

/-- What a document is reduced to is left as it is. -/
theorem steady_reduce {d : Document} (h : SteadyEntries d) : (reduce d).Steady := by
  cases hspecial : special? d with
  | none =>
    rw [reduce_eq_document_iff.mpr ⟨rfl, hspecial⟩]
    exact steady_document_iff.mpr ⟨h, hspecial⟩
  | some v =>
    rw [reduce, hspecial, Option.getD_some]
    rcases special?_eq_some hspecial with ⟨key, w, read?, -, hform, hread⟩ |
      ⟨source, scope, hscope, rfl⟩
    · exact Value.steady_of_isPlain (makesPlain_of_form hform _ _ hread).1
    · have hmem : (scopeKey, .document scope) ∈ d := hscope.mem_iff.mpr (by simp)
      exact steady_codeWithScope source (h _ hmem)

/-! ## Entries -/

theorem SteadyEntries.insert {d : Document} {key : Text} {v : Value} (h : SteadyEntries d)
    (hv : v.Steady) : SteadyEntries (Dict.insert key v d) := by
  intro entry hentry
  rcases Dict.eq_or_mem_of_mem_insert hentry with rfl | hentry
  · exact hv
  · exact h entry hentry

theorem SteadyEntries.insertAll {d entries : Document} (h : SteadyEntries d)
    (hentries : SteadyEntries entries) : SteadyEntries (Dict.insertAll entries d) :=
  fun entry hentry => (Dict.mem_or_mem_of_mem_insertAll hentry).elim (hentries entry) (h entry)

theorem SteadyEntries.nil : SteadyEntries [] := fun _ hentry => absurd hentry List.not_mem_nil

/-! ## Values of JSON trees -/

namespace Json

mutual

/-- **The value of a JSON tree is left as it is.** -/
theorem steady_value? {j : Json} {v : Value} (h : j.value? = some v) : v.Steady := by
  cases j with
  | null =>
    cases h
    rfl
  | bool b =>
    cases h
    rfl
  | number negative d =>
    rw [value?] at h
    split at h
    · obtain ⟨n, -, rfl⟩ := Option.map_eq_some_iff.mp h
      rfl
    · cases h
      rfl
    · cases h
  | string text =>
    obtain ⟨text, -, rfl⟩ := Option.map_eq_some_iff.mp h
    rfl
  | array items =>
    rw [value?] at h
    obtain ⟨values, hvalues, rfl⟩ := Option.map_eq_some_iff.mp h
    exact steady_array_iff.mpr (steady_values? hvalues)
  | object entries =>
    rw [value?] at h
    obtain ⟨d, hd, rfl⟩ := Option.map_eq_some_iff.mp h
    exact steady_reduce (SteadyEntries.nil.insertAll (steady_entries? hd))

theorem steady_values? {items : List Json} {values : List Value}
    (h : values? items = some values) : ∀ v ∈ values, v.Steady := by
  cases items with
  | nil =>
    cases h
    exact fun _ hv => absurd hv List.not_mem_nil
  | cons j items =>
    rw [values?] at h
    obtain ⟨v, hv, h⟩ := Option.bind_eq_some_iff.mp h
    obtain ⟨rest, hrest, h⟩ := Option.bind_eq_some_iff.mp h
    cases h
    exact List.forall_mem_cons.mpr ⟨steady_value? hv, steady_values? hrest⟩

theorem steady_entries? {entries : List (Option Text × Json)} {d : Document}
    (h : entries? entries = some d) : SteadyEntries d := by
  cases entries with
  | nil =>
    cases h
    exact .nil
  | cons entry entries =>
    obtain ⟨key?, j⟩ := entry
    rw [entries?] at h
    obtain ⟨key, -, h⟩ := Option.bind_eq_some_iff.mp h
    obtain ⟨v, hv, h⟩ := Option.bind_eq_some_iff.mp h
    obtain ⟨rest, hrest, h⟩ := Option.bind_eq_some_iff.mp h
    cases h
    exact List.forall_mem_cons.mpr ⟨steady_value? hv, steady_entries? hrest⟩

end

end Json

end DocQuery
