import Mathlib.Data.List.Forall2

/-!
# Outcomes

An outcome is a value or an error. These lemmas take an outcome apart along the functions that
built it.

* `error?`: the error of an outcome.
* `map_eq_ok`, `mapError_eq_ok`, `bind_eq_ok` and so on: where a value or an error comes from.
* `mapM_eq_ok_iff`, **`mapM_eq_error_iff`**: a list has a result for each item, or the error of the
  first item that has one.
-/

namespace DocQuery.Outcome

variable {ε δ α β : Type}

/-- The error of an outcome, if it is one. -/
def error? : Except ε α → Option ε
  | .ok _ => none
  | .error e => some e

theorem error?_eq_some {x : Except ε α} {e : ε} : error? x = some e ↔ x = .error e := by
  cases x <;> simp [error?]

theorem map_eq_ok {x : Except ε α} {f : α → β} {b : β} :
    x.map f = .ok b ↔ ∃ a, x = .ok a ∧ f a = b := by
  cases x <;> simp [Except.map]

theorem map_eq_error {x : Except ε α} {f : α → β} {e : ε} : x.map f = .error e ↔ x = .error e := by
  cases x <;> simp [Except.map]

theorem mapError_eq_ok {x : Except ε α} {f : ε → δ} {a : α} :
    x.mapError f = .ok a ↔ x = .ok a := by
  cases x with
  | error e => exact ⟨fun h => (by cases h), fun h => (by cases h)⟩
  | ok b =>
    constructor
    · intro h
      rw [Except.ok.inj h]
    · intro h
      rw [Except.ok.inj h]
      rfl

theorem bind_eq_ok {x : Except ε α} {f : α → Except ε β} {b : β} :
    x >>= f = .ok b ↔ ∃ a, x = .ok a ∧ f a = .ok b := by
  cases x <;> simp [bind, Except.bind]

theorem bind_eq_error {x : Except ε α} {f : α → Except ε β} {e : ε} :
    x >>= f = .error e ↔ x = .error e ∨ ∃ a, x = .ok a ∧ f a = .error e := by
  cases x <;> simp [bind, Except.bind]

theorem mapError_eq_error {x : Except ε α} {f : ε → δ} {d : δ} :
    x.mapError f = .error d ↔ ∃ e, x = .error e ∧ f e = d := by
  cases x with
  | error e =>
    constructor
    · intro h
      exact ⟨e, rfl, Except.error.inj h⟩
    · rintro ⟨e', h, rfl⟩
      cases h
      rfl
  | ok a => exact ⟨fun h => (by cases h), fun ⟨_, h, _⟩ => (by cases h)⟩

/-! ## Lists -/

theorem mapM_eq_ok_iff {f : α → Except ε β} {items : List α} {results : List β} :
    items.mapM f = .ok results ↔ List.Forall₂ (fun a b => f a = .ok b) items results := by
  induction items generalizing results with
  | nil => simp [pure, Except.pure, eq_comm]
  | cons a items ih =>
    rw [List.mapM_cons, bind_eq_ok, List.forall₂_cons_left_iff]
    constructor
    · rintro ⟨b, hb, h⟩
      obtain ⟨rest, hrest, h⟩ := bind_eq_ok.mp h
      cases h
      exact ⟨b, rest, hb, ih.mp hrest, rfl⟩
    · rintro ⟨b, rest, hb, hrest, rfl⟩
      exact ⟨b, hb, bind_eq_ok.mpr ⟨rest, ih.mpr hrest, rfl⟩⟩

/-- **A list fails with the error of its first item that fails**; the items behind it do not
matter. -/
theorem mapM_eq_error_iff {f : α → Except ε β} {items : List α} {e : ε} :
    items.mapM f = .error e ↔ ∃ before a after, items = before ++ a :: after ∧
      (∀ earlier ∈ before, ∀ e', f earlier ≠ .error e') ∧ f a = .error e := by
  induction items with
  | nil =>
    refine ⟨fun h => (by cases h), ?_⟩
    rintro ⟨before, a, after, h, -⟩
    cases before <;> cases h
  | cons a items ih =>
    rw [List.mapM_cons, bind_eq_error]
    constructor
    · rintro (h | ⟨b, hb, h⟩)
      · exact ⟨[], a, items, rfl, List.forall_mem_nil _, h⟩
      · rcases bind_eq_error.mp h with h | ⟨results, -, h⟩
        · obtain ⟨before, a', after, rfl, hbefore, ha'⟩ := ih.mp h
          refine ⟨a :: before, a', after, rfl, List.forall_mem_cons.mpr ⟨?_, hbefore⟩, ha'⟩
          rw [hb]
          exact nofun
        · cases h
    · rintro ⟨before, a', after, heq, hbefore, ha'⟩
      cases before with
      | nil =>
        cases heq
        exact .inl ha'
      | cons first before =>
        cases heq
        obtain ⟨hfirst, hbefore⟩ := List.forall_mem_cons.mp hbefore
        cases hresult : f a with
        | error e' => exact absurd hresult (hfirst e')
        | ok b =>
          have hrest := ih.mpr ⟨before, a', after, rfl, hbefore, ha'⟩
          exact .inr ⟨b, rfl, bind_eq_error.mpr (.inl hrest)⟩

theorem mem_of_mapM {f : α → Except ε β} {items : List α} {results : List β}
    (h : items.mapM f = .ok results) {b : β} (hb : b ∈ results) : ∃ a ∈ items, f a = .ok b := by
  rw [mapM_eq_ok_iff] at h
  induction h with
  | nil => cases hb
  | cons hfirst _ ih =>
    rcases List.mem_cons.mp hb with rfl | hb
    · exact ⟨_, List.mem_cons_self, hfirst⟩
    · obtain ⟨a, hmem, ha⟩ := ih hb
      exact ⟨a, List.mem_cons_of_mem _ hmem, ha⟩

/-- A list with an item that fails fails. -/
theorem exists_mapM_eq_error {f : α → Except ε β} {items : List α} {a : α} (hmem : a ∈ items)
    {e : ε} (ha : f a = .error e) : ∃ e', items.mapM f = .error e' := by
  induction items with
  | nil => cases hmem
  | cons first items ih =>
    rw [List.mapM_cons]
    cases hfirst : f first with
    | error e' => exact ⟨e', rfl⟩
    | ok b =>
      have hne : a ≠ first := by
        rintro rfl
        rw [ha] at hfirst
        cases hfirst
      obtain ⟨e', hrest⟩ := ih (List.mem_of_ne_of_mem hne hmem)
      exact ⟨e', bind_eq_error.mpr (.inr ⟨b, rfl, bind_eq_error.mpr (.inl hrest)⟩)⟩

end DocQuery.Outcome
