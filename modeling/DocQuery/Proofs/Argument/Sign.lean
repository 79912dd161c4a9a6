import DocQuery.Argument.Reserved
import DocQuery.Proofs.Argument.Precedence

/-!
# Signs in arguments

The signs that comparisons are made of and the separator of arguments have no other meaning.

* `signs`, `HasNoSign`: the signs, and a text without them.
* `leading`: what stands in front of the first sign of an argument.
* `Reserved.ofArgument?_eq_none`: an argument that does not begin with a reserved word has no
  reserved name.
-/

namespace DocQuery

/-! ## Signs -/

/-- The characters that comparisons are made of and the one between arguments. -/
def signs : Text := "=<>!&".toList

/-- No sign stands in a text. -/
def HasNoSign (text : Text) : Prop := ∀ c ∈ text, c ∉ signs

instance (text : Text) : Decidable (HasNoSign text) :=
  List.decidableBAll (fun c => c ∉ signs) text

theorem HasNoSign.hasNoComparison {text : Text} (h : HasNoSign text) : HasNoComparison text := by
  intro c hc hmem
  have hsubset : comparisonChars ⊆ signs := by decide
  exact h c hc (hsubset hmem)

/-! ## Reserved names -/

/-- What stands in front of the first sign of an argument. -/
def leading (argument : Text) : Text := argument.takeWhile fun c => c ∉ signs

theorem HasNoSign.leading_append {text : Text} (h : HasNoSign text) (rest : Text) :
    leading (text ++ rest) = text ++ leading rest :=
  List.takeWhile_append_of_pos fun c hc => by simpa using h c hc

/-- **An argument that does not begin with a reserved word** has no reserved name. -/
theorem Reserved.ofArgument?_eq_none {argument : Text}
    (h : ∀ name : Reserved, leading argument ≠ leading name.opening) :
    ofArgument? argument = none := by
  refine List.findSome?_eq_none_iff.mpr fun name _ => ?_
  rw [Option.map_eq_none_iff, Option.eq_none_iff_forall_ne_some]
  intro value hvalue
  refine h name ?_
  rw [← Text.eq_of_isPrefixOf? hvalue]
  cases name <;> rfl

end DocQuery
