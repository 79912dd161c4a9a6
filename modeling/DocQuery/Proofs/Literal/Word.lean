import DocQuery.Proofs.Literal.Cast

/-!
# Words as literals

A list in a query is written as words, and a word writes neither a list nor a date nor a pattern.

* `Value.rule?`, `read?_of_readLiteral`: the rule that a value comes from, told by its kind.
* `readLiteral_eq_array`: only words with commas between them write a list.
* `Value.isWordValue`, **`isWordValue_readLiteral`**: the kinds of values that a word writes.
* `CasterTable.cast_of_words`: words that no caster changes are read one by one.
* `CasterTable.cast_nil_of_array`, `CasterTable.exists_words_of_cast_nil`: a list without casters has
  the values of its words.
-/

namespace DocQuery

open Outcome

/-! ## The rule that a value comes from -/

/-- The rule that writes values of a kind. -/
def Value.rule? : Value → Option Rule
  | int64 _ => some .integer
  | double _ => some .float
  | dateTime _ => some .dateTime
  | array _ => some .wordList
  | regex _ _ => some .pattern
  | bool _ | null => some .word
  | _ => none

theorem Rule.rule?_of_read? {rule : Rule} {text : Text} {v : Value}
    (h : rule.read? text = some v) : v.rule? = some rule := by
  cases rule with
  | integer | float | dateTime | wordList | pattern =>
    obtain ⟨x, -, rfl⟩ := Option.map_eq_some_iff.mp h
    rfl
  | word =>
    rw [read?] at h
    unfold readWord? at h
    simp only at h
    repeat' split at h
    all_goals
      cases h
      try rfl

/-- **The kind of a value tells the rule that wrote it.** -/
theorem read?_of_readLiteral {text : Text} {v : Value} {rule : Rule} (h : readLiteral text = v)
    (hrule : v.rule? = some rule) : rule.read? text = some v := by
  unfold readLiteral readBy at h
  cases hread : Rule.all.findSome? (·.read? text) with
  | none =>
    rw [hread] at h
    subst h
    cases hrule
  | some w =>
    rw [hread] at h
    obtain rfl : w = v := h
    obtain ⟨rule', -, hrule'⟩ := List.exists_of_findSome?_eq_some hread
    rw [Rule.rule?_of_read? hrule'] at hrule
    cases hrule
    exact hrule'

/-! ## Characters that rules need -/

theorem mark?_eq_some_iff {c : Char} {text rest : Text} :
    mark? c text = some rest ↔ text = c :: rest := by
  cases text with
  | nil => simp [mark?]
  | cons d text => simp [mark?]

/-- A field is its digits, and they write a number in its bounds. -/
theorem field?_eq_some_iff {width low high n : Nat} {text rest : Text} :
    field? width low high text = some (n, rest) ↔
      ∃ digits, text = digits ++ rest ∧ digits.length = width ∧
        (∀ c ∈ digits, c.isDigit = true) ∧ digitsValue digits = n ∧ low ≤ n ∧ n ≤ high := by
  simp only [field?, Bool.and_eq_true, decide_eq_true_eq, List.all_eq_true]
  constructor
  · intro h
    split at h
    · rename_i hfield
      cases h
      exact ⟨text.take width, (List.take_append_drop ..).symm, hfield.1.1.1, hfield.1.1.2, rfl,
        hfield.1.2, hfield.2⟩
    · cases h
  · rintro ⟨digits, rfl, rfl, hdigits, rfl, hlow, hhigh⟩
    rw [List.take_left, List.drop_left, if_pos ⟨⟨⟨rfl, hdigits⟩, hlow⟩, hhigh⟩]

/-- A date begins with its year and a hyphen. -/
theorem exists_year_of_readDateTime? {text : Text} {millis : Int}
    (h : Rule.readDateTime? text = some millis) :
    ∃ year rest, text = year ++ '-' :: rest ∧ year ≠ [] ∧ ∀ c ∈ year, c.isDigit = true := by
  obtain ⟨stamp, hstamp, -⟩ := Option.bind_eq_some_iff.mp h
  unfold Stamp.read? at hstamp
  obtain ⟨⟨n, rest⟩, hyear, hstamp⟩ := Option.bind_eq_some_iff.mp hstamp
  obtain ⟨rest', hmark, -⟩ := Option.bind_eq_some_iff.mp hstamp
  obtain ⟨year, rfl, hlength, hdigits, -⟩ := field?_eq_some_iff.mp hyear
  obtain rfl := mark?_eq_some_iff.mp hmark
  refine ⟨year, rest', rfl, ?_, hdigits⟩
  rintro rfl
  cases hlength

theorem hyphen_mem_of_readDateTime? {text : Text} {millis : Int}
    (h : Rule.readDateTime? text = some millis) : '-' ∈ text := by
  obtain ⟨year, rest, rfl, -⟩ := exists_year_of_readDateTime? h
  simp

theorem head?_of_read? {text : Text} {p : Pattern} (h : Pattern.read? text = some p) :
    text.head? = some '/' := by
  unfold Pattern.read? at h
  split at h
  · rfl
  · cases h

theorem readWords?_eq_some {text : Text} {words : List Text} :
    Rule.readWords? text = some words ↔
      text.splitOn ',' = words ∧ 2 ≤ words.length ∧ ∀ word ∈ words, Text.isWordText word = true := by
  unfold Rule.readWords?
  simp only [Bool.and_eq_true, decide_eq_true_eq, List.all_eq_true]
  constructor
  · intro h
    split at h
    · rename_i hwords
      cases h
      exact ⟨rfl, hwords⟩
    · cases h
  · rintro ⟨rfl, hwords⟩
    rw [if_pos hwords]

theorem comma_mem_of_readWords? {text : Text} {words : List Text}
    (h : Rule.readWords? text = some words) : ',' ∈ text := by
  obtain ⟨hsplit, hlength, -⟩ := readWords?_eq_some.mp h
  by_cases hcomma : ',' ∈ text
  · exact hcomma
  · rw [List.splitOn_eq_singleton hcomma] at hsplit
    rw [← hsplit, List.length_singleton] at hlength
    exact absurd hlength (by decide)

theorem not_mem_of_isWordText {word : Text} (h : Text.isWordText word = true) {c : Char}
    (hc : isWord c = false) : c ∉ word := by
  intro hmem
  rw [Text.isWordText, Bool.and_eq_true, List.all_eq_true] at h
  rw [h.2 c hmem] at hc
  cases hc

/-! ## Lists and words -/

/-- **Only words with commas between them write a list**, which has their texts. -/
theorem readLiteral_eq_array {text : Text} {items : List Value}
    (h : readLiteral text = .array items) :
    ∃ words, Rule.readWords? text = some words ∧ items = words.map .string := by
  obtain ⟨words, hwords, heq⟩ := Option.map_eq_some_iff.mp (read?_of_readLiteral h rfl)
  cases heq
  exact ⟨words, hwords, rfl⟩

/-- Whether a value is one that a word can write: a number, a truth value, no value or a text. -/
def Value.isWordValue : Value → Bool
  | int64 _ | double _ | bool _ | null | string _ => true
  | _ => false

/-- **What a word writes** is no list, no date and no pattern. -/
theorem isWordValue_readLiteral {word : Text} (h : Text.isWordText word = true) :
    (readLiteral word).isWordValue = true := by
  have hliteral := isLiteral_readLiteral word
  generalize hv : readLiteral word = v at hliteral
  cases hliteral with
  | int64 | double | bool | null | string => rfl
  | dateTime millis =>
    obtain ⟨m, hm, -⟩ := Option.map_eq_some_iff.mp (read?_of_readLiteral hv rfl)
    exact absurd (hyphen_mem_of_readDateTime? hm) (not_mem_of_isWordText h (by decide +kernel))
  | words =>
    obtain ⟨words, hwords, -⟩ := readLiteral_eq_array hv
    exact absurd (comma_mem_of_readWords? hwords) (not_mem_of_isWordText h (by decide +kernel))
  | regex =>
    obtain ⟨p, hp, -⟩ := Option.map_eq_some_iff.mp (read?_of_readLiteral hv rfl)
    exact absurd (List.mem_of_head? (head?_of_read? hp))
      (not_mem_of_isWordText h (by decide +kernel))

/-! ## Casting without casters -/

namespace CasterTable

theorem castText_nil (text : Text) : castText [] text = .ok (readLiteral text) := rfl

/-- Words that no caster changes are read one by one. -/
theorem mapM_castItem_words {casters : CasterTable} {words : List Text}
    (h : ∀ word ∈ words, castText casters word = .ok (readLiteral word)) :
    (words.map Value.string).mapM (castItem casters) = .ok (words.map readLiteral) := by
  induction words with
  | nil => rfl
  | cons word words ih =>
    obtain ⟨hword, hwords⟩ := List.forall_mem_cons.mp h
    rw [List.map_cons, List.mapM_cons, ih hwords, castItem, hword]
    rfl

theorem cast_of_words {casters : CasterTable} {text : Text} {words : List Text}
    (htext : castText casters text = .ok (.array (words.map .string)))
    (h : ∀ word ∈ words, castText casters word = .ok (readLiteral word)) :
    cast casters text = .ok (.array (words.map readLiteral)) := by
  rw [cast_of_array htext, mapM_castItem_words h]
  rfl

/-- The words of a list are read one by one. -/
theorem cast_nil_of_array {text : Text} {words : List Text}
    (h : readLiteral text = .array (words.map .string)) :
    cast [] text = .ok (.array (words.map readLiteral)) :=
  cast_of_words (by rw [castText_nil, h]) fun word _ => castText_nil word

theorem cast_nil_of_ne_array {text : Text} {v : Value} (h : readLiteral text = v)
    (hv : ∀ items, v ≠ .array items) : cast [] text = .ok v :=
  cast_of_ne_array (by rw [castText_nil, h]) hv

/-- Without casters only words with commas between them have a list, which is that of their values. -/
theorem exists_words_of_cast_nil {text : Text} {items : List Value}
    (h : cast [] text = .ok (.array items)) :
    ∃ words, Rule.readWords? text = some words ∧ items = words.map readLiteral := by
  rcases cast_eq_ok_iff.mp h with ⟨list, items', hlist, -, -⟩ | ⟨hne, -⟩
  · rw [castText_nil, Except.ok.injEq] at hlist
    obtain ⟨words, hwords, rfl⟩ := readLiteral_eq_array hlist
    rw [cast_nil_of_array hlist] at h
    cases h
    exact ⟨words, hwords, rfl⟩
  · exact absurd rfl (hne items)

/-- **A list without casters** has two or more items, which are the values of words. -/
theorem cast_nil_eq_array {text : Text} {items : List Value}
    (h : cast [] text = .ok (.array items)) :
    2 ≤ items.length ∧ ∀ v ∈ items, v.isWordValue = true := by
  obtain ⟨words, hwords, rfl⟩ := exists_words_of_cast_nil h
  obtain ⟨-, hlength, hword⟩ := readWords?_eq_some.mp hwords
  refine ⟨by simpa using hlength, fun v hv => ?_⟩
  obtain ⟨word, hmem, rfl⟩ := List.mem_map.mp hv
  exact isWordValue_readLiteral (hword word hmem)

end CasterTable

end DocQuery
