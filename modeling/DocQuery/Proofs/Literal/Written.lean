import DocQuery.Proofs.Argument.Sign
import DocQuery.Proofs.Literal.Caster
import DocQuery.Proofs.Literal.Kind

/-!
# Writing literals

* `Scalar`, **`Scalar.cast_written`**: single values that have a written form, and their casts.
* `WordList`, **`WordList.cast_written`**: words with commas between them, and the list of their
  values, whatever the casters are.
* `WordList.written_injective`: the words are read back from the text.
* **`cast_words`**: without casters, these are the only texts of lists.
-/

namespace DocQuery

/-! ## Single values -/

theorem readLiteral_decimal (n : Int64) : readLiteral (decimal n.toInt) = .int64 n := by
  have hread : Rule.integer.read? (decimal n.toInt) = some (.int64 n) := by
    rw [Rule.read?, Rule.readInteger?, integer?_decimal]
    change (toInt64? n.toInt).map Value.int64 = _
    rw [toInt64?_toInt]
    rfl
  exact (readLiteral_eq_iff .integer rfl (by decide)).mpr hread

theorem hasNoSign_decimal (n : Int) : HasNoSign (decimal n) := by
  have hdigits : ∀ n, HasNoSign (Nat.toDigits 10 n) := by
    intro n c hc hsign
    have hnone : signs.filter Char.isDigit = [] := by decide
    exact List.filter_eq_nil_iff.mp hnone c hsign (isDigit_of_mem_toDigits hc)
  cases n with
  | ofNat n => exact hdigits n
  | negSucc n => exact List.forall_mem_cons.mpr ⟨by decide, hdigits (n + 1)⟩

/-- A text without signs that writes itself. -/
structure PlainText where
  text : Text
  hasNoSign : HasNoSign text
  readLiteral_eq : readLiteral text = .string text

/-- A single value that has a written form. -/
inductive Scalar where
  | integer (n : Int64)
  | flag (b : Bool)
  | null
  | text (t : PlainText)

namespace Scalar

/-- How a single value is written. -/
def written : Scalar → Text
  | integer n => decimal n.toInt
  | flag true => "true".toList
  | flag false => "false".toList
  | null => "null".toList
  | text t => t.text

/-- The value that is written. -/
def value : Scalar → Value
  | integer n => .int64 n
  | flag b => .bool b
  | null => .null
  | text t => .string t.text

theorem readLiteral_written (scalar : Scalar) : readLiteral scalar.written = scalar.value := by
  cases scalar with
  | integer n => exact readLiteral_decimal n
  | flag b => cases b <;> rfl
  | null => rfl
  | text t => exact t.readLiteral_eq

theorem value_ne_array (scalar : Scalar) (items : List Value) : scalar.value ≠ .array items := by
  cases scalar <;> exact nofun

/-- **A single value is read back** from its written form. -/
theorem cast_written (scalar : Scalar) :
    CasterTable.cast [] scalar.written = .ok scalar.value :=
  CasterTable.cast_nil_of_ne_array scalar.readLiteral_written scalar.value_ne_array

theorem hasNoSign_written (scalar : Scalar) : HasNoSign scalar.written := by
  cases scalar with
  | integer n => exact hasNoSign_decimal n.toInt
  | flag b => cases b <;> decide
  | null => decide
  | text t => exact t.hasNoSign

end Scalar

/-! ## Lists of words -/

/-- Two or more words. -/
structure WordList where
  words : List Text
  two_le : 2 ≤ words.length
  isWordText : ∀ word ∈ words, Text.isWordText word = true

namespace WordList

/-- How a list is written. -/
def written (list : WordList) : Text := [','].intercalate list.words

/-- The value that is written: the list of what the words write. -/
def value (list : WordList) : Value := .array (list.words.map readLiteral)

theorem readWords?_written (list : WordList) :
    Rule.readWords? list.written = some list.words := by
  have hne : list.words ≠ [] := List.ne_nil_of_length_pos (by have := list.two_le; omega)
  have hcomma : ∀ word ∈ list.words, ',' ∉ word := fun word hword =>
    not_mem_of_isWordText (list.isWordText word hword) (by decide +kernel)
  exact readWords?_eq_some.mpr
    ⟨List.splitOn_intercalate ',' hcomma hne, list.two_le, list.isWordText⟩

theorem not_mem_written (list : WordList) {c : Char} (hne : c ≠ ',')
    (hc : isWord c = false) : c ∉ list.written := by
  intro h
  rcases Text.eq_or_mem_of_mem_intercalate h with rfl | ⟨word, hword, h⟩
  · exact hne rfl
  · exact not_mem_of_isWordText (list.isWordText word hword) hc h

theorem readLiteral_written (list : WordList) :
    readLiteral list.written = .array (list.words.map .string) := by
  have hread : Rule.wordList.read? list.written = some (.array (list.words.map .string)) := by
    rw [Rule.read?, readWords?_written]
    rfl
  exact (readLiteral_eq_iff .wordList rfl (by decide)).mpr hread

/-- No caster claims a list of words, which has no parentheses. -/
theorem claim?_written (casters : CasterTable) (list : WordList) :
    casters.claim? list.written = none :=
  CasterTable.claim?_eq_none (list.not_mem_written (by decide) (by decide +kernel))

theorem claim?_of_mem (casters : CasterTable) (list : WordList) {word : Text}
    (h : word ∈ list.words) : casters.claim? word = none :=
  CasterTable.claim?_eq_none (not_mem_of_isWordText (list.isWordText word h) (by decide +kernel))

/-- **A list is read back** from its written form, word by word. -/
theorem cast_written (casters : CasterTable) (list : WordList) :
    casters.cast list.written = .ok list.value := by
  refine CasterTable.cast_of_words ?_ fun word hword => ?_
  · rw [CasterTable.castText, claim?_written, readLiteral_written]
  · rw [CasterTable.castText, claim?_of_mem casters list hword]

theorem written_injective {list other : WordList} (h : list.written = other.written) :
    list = other := by
  have hwords : some list.words = some other.words := by
    rw [← readWords?_written, ← readWords?_written, h]
  cases list
  cases other
  cases hwords
  rfl

theorem exists_of_readWords? {text : Text} {words : List Text}
    (h : Rule.readWords? text = some words) : ∃ list : WordList, list.written = text := by
  obtain ⟨rfl, htwo, hword⟩ := readWords?_eq_some.mp h
  exact ⟨⟨_, htwo, hword⟩, List.intercalate_splitOn ','⟩

theorem hasNoSign_written (list : WordList) : HasNoSign list.written := by
  intro c hc hsign
  have hcomma : c ≠ ',' := by
    rintro rfl
    exact absurd hsign (by decide)
  have hnone : signs.filter isWord = [] := by decide +kernel
  have hword : isWord c = false := by
    rw [← Bool.not_eq_true]
    exact List.filter_eq_nil_iff.mp hnone c hsign
  exact list.not_mem_written hcomma hword hc

end WordList

/-- **Lists of words.** Two or more words with commas between them have the list of the values of
the words, which are no lists, and no caster claims them. Without casters these are the only texts
of lists, and each of them tells its words. -/
theorem cast_words :
    (∀ (casters : CasterTable) (list : WordList),
      casters.cast list.written = .ok (.array (list.words.map readLiteral)) ∧
        casters.claim? list.written = none ∧
          ∀ word ∈ list.words, casters.claim? word = none ∧
            (readLiteral word).isWordValue = true) ∧
      ∀ text items, CasterTable.cast [] text = .ok (.array items) →
        ∃! list : WordList, list.written = text := by
  refine ⟨fun casters list => ⟨list.cast_written casters, list.claim?_written casters,
    fun word hword => ?_⟩, fun text items h => ?_⟩
  · exact ⟨list.claim?_of_mem casters hword, isWordValue_readLiteral (list.isWordText word hword)⟩
  · obtain ⟨words, hwords, -⟩ := CasterTable.exists_words_of_cast_nil h
    obtain ⟨list, hlist⟩ := WordList.exists_of_readWords? hwords
    exact ⟨list, hlist, fun other hother =>
      WordList.written_injective (hother.trans hlist.symm)⟩

/-- Words of all kinds, under a caster without a name that refuses everything. -/
theorem cast_words_mixed :
    CasterTable.cast [([], fun _ => .error [])] "été,5,TRUE,None,x_1".toList =
        .ok (.array [.string "été".toList, .int64 5, .bool true, .null, .string "x_1".toList]) ∧
      (CasterTable.claim? [([], fun _ => .error [])] "été".toList = none ∧
        (readLiteral "été".toList).isWordValue = true) ∧
        ∃! list : WordList, list.written = "été,5,TRUE,None,x_1".toList := by
  have hword : ∀ word ∈ ["été".toList, ['5'], "TRUE".toList, "None".toList, "x_1".toList],
      Text.isWordText word = true := by decide +kernel
  let list : WordList := ⟨_, by decide, hword⟩
  obtain ⟨hcast, -, hwords⟩ := cast_words.1 [([], fun _ => .error [])] list
  exact ⟨hcast, hwords "été".toList List.mem_cons_self, cast_words.2 _ _ (cast_words.1 [] list).1⟩

end DocQuery
