import DocQuery.Text.Basic
import Mathlib.Data.List.Basic

/-!
# Tokens in a text

* `Text.has_iff_isInfix`: a token is found where it stands as a whole.
* `Text.occurrences`: the number of places at which it begins.
* `Text.cut?_append`, `Text.cut?_of_occurrences_eq_one`: where a text is cut at a token.
* **`Text.occurrences_of_cut?`**: a token whose first character is not repeated in it is found once
  more than it is found behind the place where it is cut.
-/

namespace DocQuery.Text

variable {token text before after : Text}

/-! ## Finding a token -/

theorem isPrefixOf?_of_isPrefix (h : token <+: text) :
    ∃ rest, token.isPrefixOf? text = some rest ∧ token ++ rest = text := by
  obtain ⟨rest, hrest⟩ := h
  exact ⟨rest, List.isPrefixOf?_eq_some_iff_append_eq.mpr hrest, hrest⟩

theorem isPrefixOf?_of_not_isPrefix (h : ¬ token <+: text) : token.isPrefixOf? text = none := by
  rw [Option.eq_none_iff_forall_ne_some]
  exact fun rest hrest => h ⟨rest, List.isPrefixOf?_eq_some_iff_append_eq.mp hrest⟩

theorem has_cons (token : Text) (c : Char) (rest : Text) :
    has token (c :: rest) = true ↔ token <+: c :: rest ∨ has token rest = true := by
  rw [has, cut?]
  by_cases h : token <+: c :: rest
  · obtain ⟨suffix, hsuffix, -⟩ := isPrefixOf?_of_isPrefix h
    simp [hsuffix, h]
  · simp [isPrefixOf?_of_not_isPrefix h, h, has]

theorem has_iff_isInfix (hne : token ≠ []) : has token text = true ↔ token <:+: text := by
  induction text with
  | nil => simpa [has, cut?] using hne
  | cons c rest ih => rw [has_cons, ih, List.infix_cons_iff]

/-- A text is cut at a token whose first character does not stand in front of it. -/
theorem cut?_append {c : Char} (h : c ∉ before) (token after : Text) :
    cut? (c :: token) (before ++ (c :: token) ++ after) = some (before, after) := by
  induction before with
  | nil =>
    have hprefix : (c :: token).isPrefixOf? (c :: (token ++ after)) = some after :=
      List.isPrefixOf?_eq_some_iff_append_eq.mpr rfl
    rw [List.nil_append, List.cons_append, cut?, hprefix]
  | cons d before ih =>
    obtain ⟨hne, hbefore⟩ := List.ne_and_not_mem_of_not_mem_cons h
    have hprefix : (c :: token).isPrefixOf? (d :: (before ++ (c :: token) ++ after)) = none := by
      change (if (c == d) = true then token.isPrefixOf? _ else none) = none
      rw [if_neg (by simpa using hne)]
    rw [List.cons_append, List.cons_append, cut?, hprefix, ih hbefore]
    rfl

/-! ## Counting a token -/

/-- The number of places of a text at which a token begins. -/
def occurrences (token : Text) : Text → Nat
  | [] => 0
  | c :: rest => (if token.isPrefixOf (c :: rest) then 1 else 0) + occurrences token rest

theorem occurrences_cons_of_isPrefix {c : Char} {rest : Text} (h : token <+: c :: rest) :
    occurrences token (c :: rest) = occurrences token rest + 1 := by
  rw [occurrences, if_pos (List.isPrefixOf_iff_prefix.mpr h), Nat.add_comm]

theorem occurrences_cons_of_not_isPrefix {c : Char} {rest : Text} (h : ¬ token <+: c :: rest) :
    occurrences token (c :: rest) = occurrences token rest := by
  rw [occurrences, if_neg (mt List.isPrefixOf_iff_prefix.mp h), Nat.zero_add]

theorem occurrences_pos (h : has token text = true) : 0 < occurrences token text := by
  induction text with
  | nil => cases h
  | cons c rest ih =>
    by_cases hprefix : token <+: c :: rest
    · rw [occurrences_cons_of_isPrefix hprefix]
      exact Nat.succ_pos _
    · rw [occurrences_cons_of_not_isPrefix hprefix]
      exact ih (((has_cons ..).mp h).resolve_left hprefix)

theorem occurrences_eq_zero (h : has token text = false) : occurrences token text = 0 := by
  induction text with
  | nil => rfl
  | cons c rest ih =>
    rw [← Bool.not_eq_true, has_cons, not_or, Bool.not_eq_true] at h
    rw [occurrences_cons_of_not_isPrefix h.1, ih h.2]

/-- A token does not begin inside a text without its first character. -/
theorem occurrences_append {first : Char} {skipped : Text} (h : first ∉ skipped)
    (token rest : Text) :
    occurrences (first :: token) (skipped ++ rest) = occurrences (first :: token) rest := by
  induction skipped with
  | nil => rfl
  | cons c skipped ih =>
    obtain ⟨hne, hskipped⟩ := List.ne_and_not_mem_of_not_mem_cons h
    rw [List.cons_append, occurrences_cons_of_not_isPrefix, ih hskipped]
    exact fun hprefix => hne (List.cons_prefix_cons.mp hprefix).1

/-- **Cutting a text at a token takes one occurrence away**, if the first character of the token is
not repeated in it. -/
theorem occurrences_of_cut? {first : Char} {token : Text} (hfirst : first ∉ token)
    (h : cut? (first :: token) text = some (before, after)) :
    occurrences (first :: token) text = occurrences (first :: token) after + 1 := by
  induction text generalizing before with
  | nil => cases h
  | cons c rest ih =>
    rw [cut?] at h
    by_cases hprefix : first :: token <+: c :: rest
    · obtain ⟨suffix, hsuffix, hrest⟩ := isPrefixOf?_of_isPrefix hprefix
      rw [hsuffix] at h
      cases h
      rw [List.cons_append, List.cons.injEq] at hrest
      obtain ⟨rfl, rfl⟩ := hrest
      rw [occurrences_cons_of_isPrefix hprefix, occurrences_append hfirst]
    · rw [isPrefixOf?_of_not_isPrefix hprefix] at h
      obtain ⟨⟨b, a⟩, hcut, heq⟩ := Option.map_eq_some_iff.mp h
      cases heq
      rw [occurrences_cons_of_not_isPrefix hprefix, ih hcut]

/-- A text with one occurrence of a token has no other sides than those it is cut into. -/
theorem cut?_of_occurrences_eq_one (hne : token ≠ [])
    (h : occurrences token (before ++ token ++ after) = 1) :
    cut? token (before ++ token ++ after) = some (before, after) := by
  induction before with
  | nil =>
    obtain ⟨c, rest, rfl⟩ := List.exists_cons_of_ne_nil hne
    exact cut?_append List.not_mem_nil rest after
  | cons c before ih =>
    have hhas : has token (before ++ token ++ after) = true :=
      (has_iff_isInfix hne).mpr (List.infix_append ..)
    have hprefix : ¬ token <+: c :: (before ++ token ++ after) := fun hprefix => by
      have hpos := occurrences_pos hhas
      rw [List.cons_append, List.cons_append, occurrences_cons_of_isPrefix hprefix] at h
      omega
    rw [List.cons_append, List.cons_append, occurrences_cons_of_not_isPrefix hprefix] at h
    rw [List.cons_append, List.cons_append, cut?, isPrefixOf?_of_not_isPrefix hprefix, ih h]
    rfl

end DocQuery.Text
