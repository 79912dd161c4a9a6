import DocQuery.Text.Blank
import Mathlib.Data.List.DropRight

/-!
# Texts between blanks

* `IsBlanks`: a text of blanks only.
* `Text.TrimsTo`, **`Text.trim_eq_iff`**: the part of a text between the blanks at its two ends.
-/

namespace DocQuery

/-- Whether a text has only blanks. -/
def IsBlanks (text : Text) : Prop := ∀ c ∈ text, isBlank c = true

namespace Text

variable {text core before after rest : Text}

/-- A text stands between blanks and neither begins nor ends with one. -/
structure TrimsTo (text core : Text) : Prop where
  between : ∃ before after, IsBlanks before ∧ IsBlanks after ∧ text = before ++ (core ++ after)
  head : ∀ c ∈ core.head?, isBlank c = false
  last : ∀ c ∈ core.getLast?, isBlank c = false

theorem trimLeft_append (hbefore : IsBlanks before) (hrest : ∀ c ∈ rest.head?, isBlank c = false) :
    trimLeft (before ++ rest) = rest := by
  rw [trimLeft, List.dropWhile_append_of_pos hbefore]
  cases rest with
  | nil => rfl
  | cons c rest => exact List.dropWhile_cons_of_neg (by simp [hrest c rfl])

theorem trimRight_append (hafter : IsBlanks after)
    (hrest : ∀ c ∈ rest.getLast?, isBlank c = false) : trimRight (rest ++ after) = rest := by
  have hleft : trimLeft (after.reverse ++ rest.reverse) = rest.reverse := by
    refine trimLeft_append (fun c hc => hafter c (List.mem_reverse.mp hc)) fun c hc => ?_
    rw [List.head?_reverse] at hc
    exact hrest c hc
  rw [trimRight, List.reverse_append, ← trimLeft, hleft, List.reverse_reverse]

theorem head?_trimLeft (text : Text) : ∀ c ∈ text.trimLeft.head?, isBlank c = false := by
  intro c hc
  have hhead := List.head?_dropWhile_not isBlank text
  rw [← trimLeft, Option.mem_def.mp hc] at hhead
  exact hhead

theorem getLast?_trimRight (text : Text) : ∀ c ∈ text.trimRight.getLast?, isBlank c = false := by
  intro c hc
  rw [trimRight, List.getLast?_reverse] at hc
  exact head?_trimLeft text.reverse c hc

theorem trimsTo_trim (text : Text) : TrimsTo text text.trim := by
  have hleft : text.takeWhile isBlank ++ text.trimLeft = text := List.takeWhile_append_dropWhile
  have hright : text.trim ++ text.trimLeft.rtakeWhile isBlank = text.trimLeft :=
    List.rdropWhile_append_rtakeWhile
  have hbefore : IsBlanks (text.takeWhile isBlank) := fun _ hc => List.mem_takeWhile_imp hc
  have hafter : IsBlanks (text.trimLeft.rtakeWhile isBlank) := fun _ hc => List.mem_rtakeWhile_imp hc
  refine ⟨⟨_, _, hbefore, hafter, by rw [hright, hleft]⟩, fun c hc => ?_, getLast?_trimRight _⟩
  refine head?_trimLeft text c ?_
  rw [← hright, List.head?_append, Option.mem_def.mp hc]
  rfl

theorem TrimsTo.trim_eq (h : TrimsTo text core) : text.trim = core := by
  obtain ⟨before, after, hbefore, hafter, rfl⟩ := h.between
  by_cases hcore : core = []
  · have hblank : (before ++ (core ++ after)).trimLeft = [] := by
      rw [hcore, List.nil_append, trimLeft, List.dropWhile_eq_nil_iff]
      exact List.forall_mem_append.mpr ⟨hbefore, hafter⟩
    rw [trim, hblank, hcore]
    rfl
  · rw [trim, trimLeft_append hbefore, trimRight_append hafter h.last]
    rw [List.head?_append_of_ne_nil _ hcore]
    exact h.head

/-- **The part between the blanks** is the only one that neither begins nor ends with a blank. -/
theorem trim_eq_iff : text.trim = core ↔ TrimsTo text core :=
  ⟨fun h => h ▸ trimsTo_trim text, TrimsTo.trim_eq⟩

end Text

end DocQuery
