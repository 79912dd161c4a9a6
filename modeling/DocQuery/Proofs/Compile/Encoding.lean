import DocQuery.Proofs.Compile.Omission

/-!
# Encoded query strings

A query string counts only through the text that it is decoded to. How this text is encoded has no
effect, and it is split, tested and read as it is.

* `arguments_of_decode`: the arguments of a query string are those of its text.
* **`compile_encoded`**: all encodings of a text are compiled to the same.
-/

namespace DocQuery

/-- The pieces of a text between separators that are neither empty nor left out. -/
def Settings.pieces (settings : Settings) (text : Text) : List Text :=
  (text.splitOn '&').filter fun piece => !piece.isEmpty && !settings.omits piece

theorem arguments_of_decode {settings : Settings} {query text : Text}
    (h : Percent.decode query = text) : arguments settings query = settings.pieces text := by
  rw [arguments, allArguments, h, List.filter_filter, Settings.pieces]
  simp only [Bool.and_comm]

/-- **How a text is encoded has no effect.** Any two query strings that encode a text are compiled to
the same, which is what the pieces of the text itself are compiled to: an escaped separator, name or
operator is one like any other. And every query string, well-formed or not, is compiled to the same
as the text that it is decoded to, with the percent signs escaped. -/
theorem compile_encoded (settings : Settings) :
    (∀ text encoded encoded', Percent.Encodes encoded text → Percent.Encodes encoded' text →
        compile settings encoded = compile settings encoded') ∧
      (∀ text encoded, Percent.Encodes encoded text →
        compile settings encoded = compileArguments settings (settings.pieces text)) ∧
      ∀ query, compile settings (Percent.escape (Percent.decode query)) =
        compile settings query := by
  have hpieces : ∀ text encoded, Percent.Encodes encoded text →
      compile settings encoded = compileArguments settings (settings.pieces text) := by
    intro text encoded h
    rw [compile, arguments_of_decode (Percent.decode_of_encodes h)]
  refine ⟨fun text encoded encoded' h h' => ?_, hpieces, fun query => ?_⟩
  · rw [hpieces text encoded h, hpieces text encoded' h']
  · rw [hpieces _ _ (Percent.encodes_escape _), compile, arguments_of_decode rfl]

/-- A text with a percent sign, and an assignment to a name that is left out. -/
def plainText : Text := "é%>5&age=1&b=1,2".toList

/-- The parts of an encoding in which separators, operators and a letter of that name are escaped, in
either case. -/
def mixedParts : List Text :=
  ["%C3%a9", "%25", "%3e", "5", "%26", "%61", "g", "e", "%3D", "1", "&", "b", "%3d", "1", "%2C",
    "2"].map String.toList

/-- What the text is compiled to. -/
def plainResult : Query where
  filter := [
    ("é%".toList, .document [("$gt".toList, .int64 5)]),
    ("b".toList, .document [("$in".toList, .array [.int64 1, .int64 2])])]
  population := some []

theorem compile_encoded_mixed :
    (Percent.Encodes (Percent.escape plainText) plainText ∧
        Percent.Encodes mixedParts.flatten plainText) ∧
      compile withheld (Percent.escape plainText) = .ok plainResult ∧
      compile withheld mixedParts.flatten = .ok plainResult ∧
      compileArguments withheld (withheld.pieces plainText) = .ok plainResult := by
  obtain ⟨hsame, hpieces, -⟩ := compile_encoded withheld
  have hescape : Percent.Encodes (Percent.escape plainText) plainText := Percent.encodes_escape _
  have hmixed : Percent.Encodes mixedParts.flatten plainText := ⟨mixedParts, by decide, rfl⟩
  have hresult : compileArguments withheld (withheld.pieces plainText) = .ok plainResult := rfl
  have hplain : compile withheld (Percent.escape plainText) = .ok plainResult :=
    (hpieces _ _ hescape).trans hresult
  exact ⟨⟨hescape, hmixed⟩, hplain, (hsame _ _ _ hmixed hescape).trans hplain, hresult⟩

end DocQuery
