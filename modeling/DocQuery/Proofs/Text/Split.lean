import DocQuery.Text.Basic

/-!
# Pieces of a text

What splitting a text at a character gives.

* `not_mem_of_mem_splitOn`: no piece has the character.
* `eq_or_mem_of_mem_intercalate`, `exists_piece_of_mem`: every other character is in a piece.
* `splitOn_eq_cons`: with the character in it, a text has a first piece and others.
* `append_cons_inj`: a name without the character is read back from what stands in front of it.
-/

namespace DocQuery.Text

theorem not_mem_of_mem_splitOn {c : Char} {text piece : Text} (h : piece ∈ text.splitOn c) :
    c ∉ piece := by
  induction text generalizing piece with
  | nil =>
    rw [List.splitOn_nil, List.mem_singleton] at h
    simp [h]
  | cons d text ih =>
    rw [List.splitOn_cons_eq_if_modifyHead] at h
    obtain ⟨first, rest, hsplit⟩ := List.exists_cons_of_ne_nil (List.splitOn_ne_nil c text)
    rw [hsplit] at h ih
    split at h
    · rcases List.mem_cons.mp h with rfl | h
      · exact List.not_mem_nil
      · exact ih h
    · rename_i hd
      rw [List.modifyHead_cons] at h
      rcases List.mem_cons.mp h with rfl | h
      · have hfirst : c ∉ first := ih List.mem_cons_self
        have hne : c ≠ d := fun heq => hd (by simp [heq])
        simp [hfirst, hne]
      · exact ih (List.mem_cons_of_mem _ h)

theorem eq_or_mem_of_mem_intercalate {separator c : Char} {pieces : List Text}
    (h : c ∈ [separator].intercalate pieces) : c = separator ∨ ∃ piece ∈ pieces, c ∈ piece := by
  induction pieces with
  | nil => exact absurd h List.not_mem_nil
  | cons piece pieces ih =>
    cases pieces with
    | nil =>
      rw [List.intercalate_singleton] at h
      exact .inr ⟨piece, List.mem_cons_self, h⟩
    | cons next pieces =>
      rw [List.intercalate_cons_cons, List.mem_append, List.mem_append, List.mem_singleton] at h
      rcases h with (h | h) | h
      · exact .inr ⟨piece, List.mem_cons_self, h⟩
      · exact .inl h
      · rcases ih h with h | ⟨other, hother, h⟩
        · exact .inl h
        · exact .inr ⟨other, List.mem_cons_of_mem piece hother, h⟩

theorem exists_piece_of_mem {separator c : Char} {text : Text} (h : c ∈ text)
    (hne : c ≠ separator) : ∃ piece ∈ text.splitOn separator, c ∈ piece := by
  have hpieces : [separator].intercalate (text.splitOn separator) = text :=
    List.intercalate_splitOn separator
  rw [← hpieces] at h
  exact (eq_or_mem_of_mem_intercalate h).resolve_left hne

/-- A text is the piece in front of a first separator and what follows it. -/
theorem splitOn_eq_cons {c : Char} {text : Text} (h : c ∈ text) :
    ∃ name rest, c ∉ name ∧ text = name ++ c :: rest ∧
      text.splitOn c = name :: rest.splitOn c := by
  obtain ⟨name, rest, rfl, hname⟩ := List.eq_append_cons_of_mem h
  exact ⟨name, rest, hname, rfl, List.splitOn_append_cons_self_of_not_mem hname rest⟩

theorem append_cons_inj {c : Char} {a b x y : Text} (ha : c ∉ a) (hb : c ∉ b) :
    a ++ c :: x = b ++ c :: y ↔ a = b ∧ x = y := by
  constructor
  · intro h
    have hsplit := congrArg (List.splitOn c) h
    rw [List.splitOn_append_cons_self_of_not_mem ha,
      List.splitOn_append_cons_self_of_not_mem hb] at hsplit
    obtain rfl := (List.cons.inj hsplit).1
    exact ⟨rfl, (List.cons.inj (List.append_cancel_left h)).2⟩
  · rintro ⟨rfl, rfl⟩
    rfl

end DocQuery.Text
