import DocQuery.Argument.Comparison
import DocQuery.Proofs.Text.Token

/-!
# The comparison of an argument

Tokens of comparisons contain each other and may arise where two texts meet. The comparisons that
are looked for first are those of two characters, so that no token that was written is taken apart.

* `Comparison.Precedes`: the order in which comparisons are looked for.
* **`Comparison.resolve?_eq_some_iff`**, **`Comparison.resolve?_eq_none_iff`**: the comparison of an
  argument is the first one whose token stands in it.
* `Comparison.not_infix_sides`: no earlier token arises where a field, a token and a value meet.
* **`Comparison.resolve?_sides`**, `Comparison.cut?_sides`: an argument that is written with a
  comparison makes this comparison, between its two sides.
-/

namespace DocQuery

/-- The characters that comparisons are made of. -/
def comparisonChars : Text := "=<>!".toList

/-- No character of a comparison stands in a text. -/
def HasNoComparison (text : Text) : Prop := ∀ c ∈ text, c ∉ comparisonChars

instance (text : Text) : Decidable (HasNoComparison text) :=
  List.decidableBAll (fun c => c ∉ comparisonChars) text

namespace Comparison

/-! ## Tokens -/

theorem token_ne_nil (comparison : Comparison) : comparison.token ≠ [] := by
  cases comparison <;> decide

/-- A token is its first character and what does not have it again. -/
theorem exists_token_eq (comparison : Comparison) :
    ∃ c ∈ comparisonChars, ∃ token, comparison.token = c :: token ∧ c ∉ token := by
  cases comparison <;> exact ⟨_, by decide, _, rfl, by decide⟩

theorem mem_comparisonChars_of_mem_token {comparison : Comparison} {c : Char}
    (h : c ∈ comparison.token) : c ∈ comparisonChars := by
  have hall : comparison.token.all comparisonChars.contains = true := by
    cases comparison <;> decide
  exact List.contains_iff_mem.mp (List.all_eq_true.mp hall c h)

theorem has_token_iff {comparison : Comparison} {argument : Text} :
    Text.has comparison.token argument = true ↔ comparison.token <:+: argument :=
  Text.has_iff_isInfix comparison.token_ne_nil

/-- Where characters of comparisons are not, there is no token. -/
theorem not_infix_of_hasNoComparison {text : Text} (h : HasNoComparison text)
    (comparison : Comparison) : ¬ comparison.token <:+: text := by
  intro hinside
  obtain ⟨c, hc, token, htoken, -⟩ := comparison.exists_token_eq
  exact h c (hinside.subset (htoken ▸ List.mem_cons_self)) hc

theorem has_token_eq_false_iff {comparison : Comparison} {argument : Text} :
    Text.has comparison.token argument = false ↔ ¬ comparison.token <:+: argument := by
  rw [← Bool.not_eq_true, has_token_iff]

/-- The characters of comparisons are tokens themselves. -/
theorem exists_token_eq_singleton {c : Char} (h : c ∈ comparisonChars) :
    ∃ comparison : Comparison, comparison.token = [c] := by
  change c ∈ ['=', '<', '>', '!'] at h
  simp only [List.mem_cons, List.not_mem_nil, or_false] at h
  rcases h with rfl | rfl | rfl | rfl
  · exact ⟨.equals, rfl⟩
  · exact ⟨.below, rfl⟩
  · exact ⟨.above, rfl⟩
  · exact ⟨.absent, rfl⟩

theorem hasNoComparison_of_not_isInfix {text : Text}
    (h : ∀ comparison : Comparison, ¬ comparison.token <:+: text) : HasNoComparison text := by
  intro c hc hmem
  obtain ⟨comparison, htoken⟩ := exists_token_eq_singleton hmem
  obtain ⟨before, after, rfl⟩ := List.append_of_mem hc
  exact h comparison ⟨before, after, by simp [htoken]⟩

/-! ## The order of comparisons -/

/-- Whether a comparison is looked for before another one. -/
def Precedes (c d : Comparison) : Prop := all.idxOf c < all.idxOf d

instance (c d : Comparison) : Decidable (c.Precedes d) := by unfold Precedes; infer_instance

theorem all_eq_append (comparison : Comparison) :
    ∃ earlier later, all = earlier ++ comparison :: later ∧
      ∀ c, c ∈ earlier ↔ c.Precedes comparison := by
  refine ⟨all.takeWhile (· ≠ comparison), (all.dropWhile (· ≠ comparison)).tail, ?_, ?_⟩
  · cases comparison <;> rfl
  · cases comparison <;> rintro (_ | _ | _ | _ | _ | _ | _) <;> decide

/-- **The comparison of an argument** is the first one whose token stands in it. -/
theorem resolve?_eq_some_iff {argument : Text} {comparison : Comparison} :
    resolve? argument = some comparison ↔
      comparison.token <:+: argument ∧ ∀ c : Comparison, c.Precedes comparison →
        ¬ c.token <:+: argument := by
  obtain ⟨earlier, later, hall, hearlier⟩ := comparison.all_eq_append
  constructor
  · intro h
    refine ⟨has_token_iff.mp (by simpa using List.find?_some h), fun c hc hinside => ?_⟩
    -- an earlier comparison would have been found in place of this one
    have hfound : (earlier.find? fun d => Text.has d.token argument).isSome :=
      List.find?_isSome.mpr ⟨c, (hearlier c).mpr hc, has_token_iff.mpr hinside⟩
    obtain ⟨d, hd⟩ := Option.isSome_iff_exists.mp hfound
    rw [resolve?, hall, List.find?_append, hd, Option.some_or, Option.some.injEq] at h
    subst h
    exact absurd ((hearlier d).mp (List.mem_of_find?_eq_some hd)) (Nat.lt_irrefl _)
  · rintro ⟨hinside, hnone⟩
    have hfound : (earlier.find? fun d => Text.has d.token argument) = none :=
      List.find?_eq_none.mpr fun c hc hhas =>
        hnone c ((hearlier c).mp hc) (has_token_iff.mp hhas)
    rw [resolve?, hall, List.find?_append, hfound, Option.none_or]
    exact List.find?_cons_of_pos (has_token_iff.mpr hinside)

/-- **An argument without comparison** has none of their characters. -/
theorem resolve?_eq_none_iff {argument : Text} :
    resolve? argument = none ↔ HasNoComparison argument := by
  rw [resolve?, List.find?_eq_none]
  constructor
  · refine fun h => hasNoComparison_of_not_isInfix fun comparison hinside => ?_
    exact h comparison (by cases comparison <;> decide) (has_token_iff.mpr hinside)
  · exact fun h comparison _ hhas =>
      not_infix_of_hasNoComparison h comparison (has_token_iff.mp hhas)

/-! ## Written comparisons -/

section Sides

variable {before after : Text} {comparison : Comparison}

/-- A token does not reach into what has no characters of comparisons. -/
theorem infix_of_infix_append (hbefore : HasNoComparison before) {c : Comparison}
    (h : c.token <:+: before ++ after) : c.token <:+: after := by
  rcases List.infix_append_iff_ne_nil.mp h with h | h | ⟨left, right, hleft, -, htoken, hsuffix, -⟩
  · exact absurd h (not_infix_of_hasNoComparison hbefore c)
  · exact h
  · obtain ⟨d, left, rfl⟩ := List.exists_cons_of_ne_nil hleft
    have hd : d ∈ c.token := by simp [htoken]
    exact absurd (mem_comparisonChars_of_mem_token hd)
      (hbefore d (hsuffix.subset List.mem_cons_self))

/-- A token in two parts ends in an equals sign, which is a token itself. -/
theorem parts_of_token_eq {c : Comparison} {left right : Text} (hleft : left ≠ [])
    (hright : right ≠ []) (h : left ++ right = c.token) :
    left = c.token.dropLast ∧ right = equals.token := by
  obtain ⟨x, left, rfl⟩ := List.exists_cons_of_ne_nil hleft
  obtain ⟨y, right, rfl⟩ := List.exists_cons_of_ne_nil hright
  cases c <;> simp_all [token, List.append_eq_cons_iff]

/-- A token that ends in the first part of an earlier one is looked for after the equals sign. -/
theorem equals_precedes {c : Comparison} (hc : c.Precedes comparison)
    (hne : c.token.dropLast ≠ []) (hsuffix : c.token.dropLast <:+ comparison.token) :
    equals.Precedes comparison := by
  revert hc hne hsuffix
  cases c <;> cases comparison <;> decide

/-- **No earlier token arises** where a token and what stands behind it meet. -/
theorem not_infix_token_append (hafter : ∀ c : Comparison, c.Precedes comparison →
    ¬ c.token <:+: after) {c : Comparison} (hc : c.Precedes comparison) :
    ¬ c.token <:+: comparison.token ++ after := by
  intro h
  rcases List.infix_append_iff_ne_nil.mp h with
    h | h | ⟨left, right, hleft, hright, htoken, hsuffix, hprefix⟩
  · exact absurd h (by revert hc; cases c <;> cases comparison <;> decide)
  · exact hafter c hc h
  · -- the text behind the token begins with an equals sign, which is looked for before it
    obtain ⟨rfl, rfl⟩ := parts_of_token_eq hleft hright htoken.symm
    exact hafter equals (equals_precedes hc hleft hsuffix) hprefix.isInfix

/-- No earlier token arises where a field, a token and a value meet. -/
theorem not_infix_sides (hbefore : HasNoComparison before)
    (hafter : ∀ c : Comparison, c.Precedes comparison → ¬ c.token <:+: after) {c : Comparison}
    (hc : c.Precedes comparison) : ¬ c.token <:+: before ++ comparison.token ++ after := by
  rw [List.append_assoc]
  exact fun h => not_infix_token_append hafter hc (infix_of_infix_append hbefore h)

/-- **A comparison that is written is made.** -/
theorem resolve?_sides (hbefore : HasNoComparison before)
    (hafter : ∀ c : Comparison, c.Precedes comparison → ¬ c.token <:+: after) :
    resolve? (before ++ comparison.token ++ after) = some comparison :=
  resolve?_eq_some_iff.mpr ⟨List.infix_append .., fun _ => not_infix_sides hbefore hafter⟩

theorem resolve?_of_hasNoComparison (hbefore : HasNoComparison before)
    (hafter : HasNoComparison after) (comparison : Comparison) :
    resolve? (before ++ comparison.token ++ after) = some comparison :=
  resolve?_sides hbefore fun c _ => not_infix_of_hasNoComparison hafter c

/-- The sides of a comparison are what it was written between. -/
theorem cut?_sides (hbefore : HasNoComparison before) (comparison : Comparison) (after : Text) :
    Text.cut? comparison.token (before ++ comparison.token ++ after) = some (before, after) := by
  obtain ⟨c, hc, token, htoken, -⟩ := comparison.exists_token_eq
  rw [htoken]
  exact Text.cut?_append (fun hmem => hbefore c hmem hc) token after

/-- Behind the place where an argument is cut, its token occurs once less. -/
theorem occurrences_of_cut? {argument : Text}
    (h : Text.cut? comparison.token argument = some (before, after)) :
    Text.occurrences comparison.token argument =
      Text.occurrences comparison.token after + 1 := by
  obtain ⟨c, -, token, htoken, hc⟩ := comparison.exists_token_eq
  rw [htoken] at h ⊢
  exact Text.occurrences_of_cut? hc h

end Sides

end Comparison

end DocQuery
