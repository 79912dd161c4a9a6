import DocQuery.Compile
import DocQuery.Proofs.Text.Percent
import DocQuery.Proofs.Text.Split

/-!
# The arguments of a query string

* **`allArguments_append`**: query strings with a separator between them have the arguments of both.
* `joined`, `allArguments_joined`: the arguments of several parts.
* `written`, **`allArguments_written`**: any arguments can be written as a query string.
-/

namespace DocQuery

theorem mem_allArguments {query argument : Text} (h : argument ∈ allArguments query) :
    argument ≠ [] ∧ '&' ∉ argument := by
  obtain ⟨hpiece, hne⟩ := List.mem_filter.mp h
  exact ⟨by simpa using hne, Text.not_mem_of_mem_splitOn hpiece⟩

/-- **With a separator between them query strings have the arguments of both**, also where one ends
in the middle of an escape or of a character. -/
theorem allArguments_append (query rest : Text) :
    allArguments (query ++ '&' :: rest) = allArguments query ++ allArguments rest := by
  rw [allArguments, Percent.decode_append, List.splitOn_append_cons_self, List.filter_append]
  rfl

/-- Parts of a query string with separators between them. -/
def joined (parts : List Text) : Text := ['&'].intercalate parts

theorem allArguments_joined (parts : List Text) :
    allArguments (joined parts) = parts.flatMap allArguments := by
  induction parts with
  | nil => rfl
  | cons part parts ih =>
    rw [joined] at ih ⊢
    cases parts with
    | nil => rw [List.intercalate_singleton, List.flatMap_singleton]
    | cons next parts =>
      rw [List.intercalate_cons_cons, List.append_assoc, List.singleton_append,
        allArguments_append, ih]
      rfl

/-- A text without separators is one argument, or none if it is empty. -/
theorem allArguments_of_decode {query text : Text} (h : Percent.decode query = text)
    (hsep : '&' ∉ text) :
    allArguments query = [text].filter fun argument => !argument.isEmpty := by
  rw [allArguments, h, List.splitOn_eq_singleton hsep]

/-- The query string that is made of arguments. -/
def written (arguments : List Text) : Text := joined (arguments.map Percent.escape)

/-- **Any arguments can be written**, if they are not empty and have no separator. -/
theorem allArguments_written {arguments : List Text}
    (h : ∀ argument ∈ arguments, argument ≠ [] ∧ '&' ∉ argument) :
    allArguments (written arguments) = arguments := by
  rw [written, allArguments_joined, List.flatMap_map]
  induction arguments with
  | nil => rfl
  | cons argument arguments ih =>
    obtain ⟨⟨hne, hsep⟩, hrest⟩ := List.forall_mem_cons.mp h
    have hfirst : allArguments (Percent.escape argument) = [argument] := by
      rw [allArguments_of_decode (Percent.decode_escape argument) hsep]
      exact List.filter_eq_self.mpr (by simpa using hne)
    rw [List.flatMap_cons, hfirst, ih hrest]
    rfl

end DocQuery
