import DocQuery.Json.Parser
import DocQuery.Proofs.Number.Grammar
import Mathlib.Data.List.Basic

/-!
# The grammar of JSON

* `Json.Writes`: the texts of a tree. `Json.WritesPadded` allows blanks around them.
* `Json.WritesString`: the texts of a string, by the code units between its quotes.
* **`Json.readString?_of_writes`**, **`Json.writesString_of_readString?`**: strings are taken just as
  they are written.
* `Json.WritesUnits.mem`, `Json.mem_of_textOfUnits?`: a character that is part of no escape stands in
  the text that a string spells.
* `Json.WritesString.plain`: a text without quotes, backslashes and control characters is written as
  it is.
* `Json.readScalar?_of_number`, `Json.readScalar?_of_negative`, **`Json.writes_of_readScalar?`**: words
  and numbers are taken just as they are written.
* `Json.Writes.exists_cons`: a value is told from blanks and from the end of an array by its first
  character.
-/

namespace DocQuery.Json

/-! ## Texts of trees -/

/-- Whether a text has only blanks. -/
def IsBlanks (text : Text) : Prop := ∀ c ∈ text, isBlank c = true

/-- The code units that the text between two quotes writes. -/
inductive WritesUnits : List Nat → Text → Prop
  | nil : WritesUnits [] []
  | plain {c : Char} {units : List Nat} {text : Text} (hquote : c ≠ '"') (hescape : c ≠ '\\')
      (hcontrol : 0x20 ≤ c.toNat) (h : WritesUnits units text) :
      WritesUnits (c.toNat :: units) (c :: text)
  | letter {c : Char} {unit : Nat} {units : List Nat} {text : Text} (hc : escape? c = some unit)
      (h : WritesUnits units text) : WritesUnits (unit :: units) ('\\' :: c :: text)
  | hex {a b c d : Char} {unit : Nat} {units : List Nat} {text : Text}
      (hvalue : hexValue? [a, b, c, d] = some unit) (h : WritesUnits units text) :
      WritesUnits (unit :: units) ('\\' :: 'u' :: a :: b :: c :: d :: text)

/-- The texts of a string, with their quotes. -/
inductive WritesString : Option Text → Text → Prop
  | quoted {units : List Nat} {text : Text} (h : WritesUnits units text) :
      WritesString (textOfUnits? units) ('"' :: (text ++ ['"']))

mutual

/-- The texts of a tree, from the first character to the last one. -/
inductive Writes : Json → Text → Prop
  | wordNull : Writes .null "null".toList
  | wordTrue : Writes (.bool true) "true".toList
  | wordFalse : Writes (.bool false) "false".toList
  | number {d : Decimal} {text : Text} (hwrites : d.Writes text) (h : isJsonNumber d = true) :
      Writes (.number false d) text
  | negative {d : Decimal} {text : Text} (hwrites : d.Writes text) (h : isJsonNumber d = true) :
      Writes (.number true d) ('-' :: text)
  | string {s : Option Text} {text : Text} (h : WritesString s text) : Writes (.string s) text
  | emptyArray {blanks : Text} (h : IsBlanks blanks) : Writes (.array []) ('[' :: (blanks ++ [']']))
  | array {items : List Json} {body : Text} (h : WritesItems items body) :
      Writes (.array items) ('[' :: (body ++ [']']))
  | emptyObject {blanks : Text} (h : IsBlanks blanks) :
      Writes (.object []) ('{' :: (blanks ++ ['}']))
  | object {entries : List (Option Text × Json)} {body : Text} (h : WritesEntries entries body) :
      Writes (.object entries) ('{' :: (body ++ ['}']))

/-- The texts of a tree with blanks around them. -/
inductive WritesPadded : Json → Text → Prop
  | pad {v : Json} {before text after : Text} (hbefore : IsBlanks before) (h : Writes v text)
      (hafter : IsBlanks after) : WritesPadded v (before ++ (text ++ after))

/-- The texts of the items of an array, one or more of them between commas. -/
inductive WritesItems : List Json → Text → Prop
  | last {v : Json} {text : Text} (h : WritesPadded v text) : WritesItems [v] text
  | cons {v : Json} {items : List Json} {text rest : Text} (h : WritesPadded v text)
      (hrest : WritesItems items rest) : WritesItems (v :: items) (text ++ ',' :: rest)

/-- The texts of the entries of an object, one or more of them between commas. -/
inductive WritesEntries : List (Option Text × Json) → Text → Prop
  | last {key : Option Text} {v : Json} {before name after text : Text} (hbefore : IsBlanks before)
      (hkey : WritesString key name) (hafter : IsBlanks after) (h : WritesPadded v text) :
      WritesEntries [(key, v)] (before ++ (name ++ (after ++ ':' :: text)))
  | cons {key : Option Text} {v : Json} {entries : List (Option Text × Json)}
      {before name after text rest : Text} (hbefore : IsBlanks before)
      (hkey : WritesString key name) (hafter : IsBlanks after) (h : WritesPadded v text)
      (hrest : WritesEntries entries rest) :
      WritesEntries ((key, v) :: entries)
        (before ++ (name ++ (after ++ ':' :: (text ++ ',' :: rest))))

end

/-! ## Blanks -/

section Blanks

variable {blanks text rest : Text} {c : Char}

theorem skipBlanks_append (h : IsBlanks blanks) (rest : Text) :
    skipBlanks (blanks ++ rest) = skipBlanks rest :=
  List.dropWhile_append_of_pos h

theorem skipBlanks_cons (h : isBlank c = false) (rest : Text) :
    skipBlanks (c :: rest) = c :: rest :=
  List.dropWhile_cons_of_neg (by simp [h])

theorem skipBlanks_append_cons (hblanks : IsBlanks blanks) (hc : isBlank c = false) (rest : Text) :
    skipBlanks (blanks ++ c :: rest) = c :: rest := by
  rw [skipBlanks_append hblanks, skipBlanks_cons hc]

theorem exists_skipBlanks (text : Text) : ∃ blanks, IsBlanks blanks ∧
    text = blanks ++ skipBlanks text :=
  ⟨text.takeWhile isBlank, fun _ hc => List.mem_takeWhile_imp hc,
    List.takeWhile_append_dropWhile.symm⟩

/-- A number may end in front of blanks. -/
theorem endsNumber_append (hblanks : IsBlanks blanks) (hrest : EndsNumber rest) :
    EndsNumber (blanks ++ rest) := by
  cases blanks with
  | nil => exact hrest
  | cons c blanks =>
    intro d hd
    cases hd
    have hc := hblanks c List.mem_cons_self
    simp only [isBlank, Bool.or_eq_true, decide_eq_true_eq] at hc
    rcases hc with ((rfl | rfl) | rfl) | rfl <;> decide

end Blanks

/-! ## Strings -/

section Strings

variable {s : Option Text} {units : List Nat} {text rest : Text}

theorem readUnits?_of_writes (h : WritesUnits units text) (rest : Text) :
    readUnits? (text ++ '"' :: rest) = some (units, rest) := by
  induction h with
  | nil => rw [List.nil_append, readUnits?]
  | plain hquote hescape hcontrol h ih =>
    rw [List.cons_append, readUnits?, if_neg (by omega), ih]
    · rfl
    · exact hquote
    · rintro _ _ _ _ _ rfl
      exact absurd rfl hescape
    · rintro _ _ rfl
      exact absurd rfl hescape
  | letter hc h ih =>
    rw [List.cons_append, List.cons_append, readUnits?, hc]
    · simp [ih]
    · rintro _ _ _ _ _ rfl
      cases hc
  | hex hvalue h ih =>
    simp only [List.cons_append, readUnits?, hvalue, ih]
    rfl

theorem writesUnits_of_readUnits? (h : readUnits? text = some (units, rest)) :
    ∃ body, WritesUnits units body ∧ text = body ++ '"' :: rest := by
  fun_induction readUnits? text generalizing units with
  | case1 => cases h
  | case2 rest =>
    cases h
    exact ⟨[], .nil, rfl⟩
  | case3 a b c d rest ih =>
    obtain ⟨unit, hvalue, h⟩ := Option.bind_eq_some_iff.mp h
    obtain ⟨⟨units, rest⟩, hread, h⟩ := Option.bind_eq_some_iff.mp h
    cases h
    obtain ⟨body, hbody, rfl⟩ := ih hread
    exact ⟨_, .hex hvalue hbody, rfl⟩
  | case4 c rest _ ih =>
    obtain ⟨unit, hc, h⟩ := Option.bind_eq_some_iff.mp h
    obtain ⟨⟨units, rest⟩, hread, h⟩ := Option.bind_eq_some_iff.mp h
    cases h
    obtain ⟨body, hbody, rfl⟩ := ih hread
    exact ⟨_, .letter hc hbody, rfl⟩
  | case5 => cases h
  | case6 c rest hquote hhex hescape hcontrol ih =>
    obtain ⟨⟨units, rest⟩, hread, h⟩ := Option.map_eq_some_iff.mp h
    cases h
    obtain ⟨body, hbody, rfl⟩ := ih hread
    -- a backslash in front of the rest would begin an escape
    obtain ⟨next, others, heq⟩ := List.exists_cons_of_ne_nil
      (List.append_ne_nil_of_right_ne_nil body (List.cons_ne_nil '"' rest))
    exact ⟨_, .plain hquote (fun hc => hescape next others hc heq) (by omega) hbody, rfl⟩

/-- **A string that is written is taken**, behind its first quote. -/
theorem readString?_of_writes (h : WritesString s text) (rest : Text) :
    ∃ body, text ++ rest = '"' :: body ∧ readString? body = some (s, rest) := by
  cases h with
  | quoted h =>
    rename_i units body
    refine ⟨body ++ '"' :: rest, by simp, ?_⟩
    rw [readString?, readUnits?_of_writes h]
    rfl

/-- **A string that is taken was written.** -/
theorem writesString_of_readString? (h : readString? text = some (s, rest)) :
    ∃ written, WritesString s written ∧ '"' :: text = written ++ rest := by
  obtain ⟨⟨units, rest⟩, hread, heq⟩ := Option.map_eq_some_iff.mp h
  cases heq
  obtain ⟨body, hbody, rfl⟩ := writesUnits_of_readUnits? hread
  exact ⟨_, .quoted hbody, by simp⟩

/-- No text is longer than the code units that spell it. -/
theorem length_le_of_textOfUnits? {spelled : Text} (h : textOfUnits? units = some spelled) :
    spelled.length ≤ units.length := by
  fun_induction textOfUnits? units generalizing spelled with
  | case1 | case3 =>
    cases h
    exact Nat.le_refl _
  | case2 | case5 | case6 => cases h
  | case4 unit next rest _ _ ih | case7 unit next rest _ _ ih =>
    obtain ⟨others, hothers, rfl⟩ := Option.map_eq_some_iff.mp h
    have hle := ih hothers
    simp only [List.length_cons] at hle ⊢
    omega

/-- A character is no half of a surrogate pair. -/
theorem not_isHalf (c : Char) : isHighHalf c.toNat = false ∧ isLowHalf c.toNat = false := by
  have hvalid : c.toNat < 0xD800 ∨ 0xDFFF < c.toNat ∧ c.toNat < 0x110000 := c.valid
  simp only [isHighHalf, isLowHalf, Bool.and_eq_false_iff, decide_eq_false_iff_not]
  omega

/-- A character whose code unit is spelled stands in the text. -/
theorem mem_of_textOfUnits? {spelled : Text} (h : textOfUnits? units = some spelled) {c : Char}
    (hc : c.toNat ∈ units) : c ∈ spelled := by
  obtain ⟨hhigh, hlow⟩ := not_isHalf c
  fun_induction textOfUnits? units generalizing spelled with
  | case1 => cases hc
  | case2 | case5 | case6 => cases h
  | case3 unit =>
    cases h
    rw [List.mem_singleton] at hc
    rw [← hc, Char.ofNat_toNat]
    exact List.mem_singleton_self c
  | case4 unit next rest hunit hnext ih =>
    obtain ⟨others, hothers, rfl⟩ := Option.map_eq_some_iff.mp h
    rcases List.mem_cons.mp hc with rfl | hc
    · rw [hhigh] at hunit
      cases hunit
    · rcases List.mem_cons.mp hc with rfl | hc
      · rw [hlow] at hnext
        cases hnext
      · exact List.mem_cons_of_mem _ (ih hothers hc)
  | case7 unit next rest _ _ ih =>
    obtain ⟨others, hothers, rfl⟩ := Option.map_eq_some_iff.mp h
    rcases List.mem_cons.mp hc with rfl | hc
    · rw [Char.ofNat_toNat]
      exact List.mem_cons_self
    · exact List.mem_cons_of_mem _ (ih hothers hc)

theorem textOfUnits?_map_toNat (text : Text) : textOfUnits? (text.map Char.toNat) = some text := by
  induction text with
  | nil => rfl
  | cons c text ih =>
    obtain ⟨hhigh, hlow⟩ := not_isHalf c
    cases text with
    | nil => simp [textOfUnits?, hhigh, hlow]
    | cons d text =>
      rw [List.map_cons] at ih
      rw [List.map_cons, List.map_cons, textOfUnits?, ih]
      simp [hhigh, hlow]

/-- Whether a character of a string is written by itself. -/
def isPlain (c : Char) : Bool := c ≠ '"' && c ≠ '\\' && 0x20 ≤ c.toNat

/-- **A text of plain characters is written between quotes as it is.** -/
theorem WritesString.plain (h : text.all isPlain = true) :
    WritesString (some text) ('"' :: (text ++ ['"'])) := by
  have hunits : WritesUnits (text.map Char.toNat) text := by
    induction text with
    | nil => exact .nil
    | cons c text ih =>
      rw [List.all_cons, Bool.and_eq_true, isPlain, Bool.and_eq_true, Bool.and_eq_true] at h
      obtain ⟨⟨⟨hquote, hescape⟩, hcontrol⟩, htext⟩ := h
      exact .plain (of_decide_eq_true hquote) (of_decide_eq_true hescape)
        (of_decide_eq_true hcontrol) (ih htext)
  rw [← textOfUnits?_map_toNat text]
  exact .quoted hunits

theorem isSome_hexDigit?_of_hexValue? {n unit : Nat} (h : hexValueFrom? n text = some unit)
    {c : Char} (hc : c ∈ text) : (hexDigit? c).isSome = true := by
  induction text generalizing n with
  | nil => cases hc
  | cons d text ih =>
    obtain ⟨value, hvalue, h⟩ := Option.bind_eq_some_iff.mp h
    rcases List.mem_cons.mp hc with rfl | hc
    · rw [hvalue]
      rfl
    · exact ih h hc

/-- A character that is part of no escape is written by itself alone. -/
theorem WritesUnits.mem (h : WritesUnits units text) {c : Char} (hslash : c ≠ '\\') (hu : c ≠ 'u')
    (hescape : escape? c = none) (hhex : hexDigit? c = none) (hc : c ∈ text) : c.toNat ∈ units := by
  induction h with
  | nil => cases hc
  | plain _ _ _ _ ih =>
    rcases List.mem_cons.mp hc with rfl | hc
    · exact List.mem_cons_self
    · exact List.mem_cons_of_mem _ (ih hc)
  | letter hletter _ ih =>
    rcases List.mem_cons.mp hc with rfl | hc
    · exact absurd rfl hslash
    · rcases List.mem_cons.mp hc with rfl | hc
      · rw [hescape] at hletter
        cases hletter
      · exact List.mem_cons_of_mem _ (ih hc)
  | hex hvalue _ ih =>
    rename_i a b d e unit units text _
    have hdigits : c ∉ [a, b, d, e] := fun hmem => by
      have hsome := isSome_hexDigit?_of_hexValue? hvalue hmem
      rw [hhex] at hsome
      cases hsome
    have hescaped : c ∉ ['\\', 'u', a, b, d, e] := by simpa [hslash, hu] using hdigits
    have hc : c ∈ ['\\', 'u', a, b, d, e] ++ text := hc
    exact List.mem_cons_of_mem _ (ih ((List.mem_append.mp hc).resolve_left hescaped))

theorem WritesUnits.length_le (h : WritesUnits units text) : units.length ≤ text.length := by
  induction h with
  | nil => exact Nat.le_refl _
  | plain | letter | hex =>
    simp only [List.length_cons]
    omega

end Strings

/-! ## Words and numbers -/

section Scalars

variable {v : Json} {d : Decimal} {c : Char} {text rest : Text}

theorem exists_cons_of_isJsonNumber (hwrites : d.Writes text) (h : isJsonNumber d = true) :
    ∃ c rest, text = c :: rest ∧ c.isDigit = true := by
  cases hwrites with
  | parts hwhole =>
    simp only [isJsonNumber, Bool.and_eq_true, Bool.not_eq_true',
      List.isEmpty_eq_false_iff] at h
    obtain ⟨c, whole, rfl⟩ := List.exists_cons_of_ne_nil h.1.1
    exact ⟨c, _, rfl, hwhole c List.mem_cons_self⟩

theorem not_mem_of_isDigit (h : c.isDigit = true) : c ∉ ['"', '[', '{'] := by
  simp only [List.mem_cons, List.not_mem_nil, or_false]
  rintro (rfl | rfl | rfl) <;> cases h

theorem isBlank_of_isDigit (h : c.isDigit = true) : isBlank c = false := by
  rw [← Bool.not_eq_true, isBlank]
  simp only [Bool.or_eq_true, decide_eq_true_eq]
  rintro (((rfl | rfl) | rfl) | rfl) <;> cases h

/-- A value is told by its first character from blanks and from the end of an array. -/
theorem Writes.exists_cons (h : Writes v text) :
    ∃ c rest, text = c :: rest ∧ isBlank c = false ∧ c ≠ ']' := by
  cases h with
  | number hwrites h =>
    obtain ⟨c, rest, rfl, hc⟩ := exists_cons_of_isJsonNumber hwrites h
    refine ⟨c, rest, rfl, isBlank_of_isDigit hc, ?_⟩
    rintro rfl
    cases hc
  | string h =>
    cases h
    exact ⟨_, _, rfl, by decide, by decide⟩
  | wordNull | wordTrue | wordFalse | negative | emptyArray | array | emptyObject | object =>
    exact ⟨_, _, rfl, by decide, by decide⟩

theorem readNumber?_of_isDigit (hc : c.isDigit = true)
    (hread : Decimal.read? (c :: text) = some (d, rest)) (h : isJsonNumber d = true) :
    readNumber? (c :: text) = some (.number false d, rest) := by
  unfold readNumber?
  split
  rename_i negative body heq
  split at heq
  · rename_i hcons
    cases hcons
    cases hc
  · cases heq
    rw [hread]
    exact if_pos h

theorem readScalar?_of_not_word (hnull : c ≠ 'n') (htrue : c ≠ 't') (hfalse : c ≠ 'f') :
    readScalar? (c :: text) = readNumber? (c :: text) := by
  simp [readScalar?, words, List.isPrefixOf?, hnull.symm, htrue.symm, hfalse.symm]

theorem readScalar?_of_number (hwrites : d.Writes text) (h : isJsonNumber d = true)
    (hrest : EndsNumber rest) : readScalar? (text ++ rest) = some (.number false d, rest) := by
  have hread := Decimal.read?_of_writes hwrites hrest
  obtain ⟨c, text, rfl, hc⟩ := exists_cons_of_isJsonNumber hwrites h
  rw [List.cons_append] at hread ⊢
  rw [readScalar?_of_not_word, readNumber?_of_isDigit hc hread h]
  all_goals
    rintro rfl
    cases hc

theorem readScalar?_of_negative (hwrites : d.Writes text) (h : isJsonNumber d = true)
    (hrest : EndsNumber rest) :
    readScalar? ('-' :: (text ++ rest)) = some (.number true d, rest) := by
  rw [readScalar?_of_not_word (by decide) (by decide) (by decide), readNumber?]
  simp only [Decimal.read?_of_writes hwrites hrest]
  exact if_pos h

theorem writes_of_mem_words {word : Text} (h : (word, v) ∈ words) : Writes v word := by
  simp only [words, List.mem_cons, Prod.mk.injEq, List.not_mem_nil, or_false] at h
  rcases h with ⟨rfl, rfl⟩ | ⟨rfl, rfl⟩ | ⟨rfl, rfl⟩
  · exact .wordNull
  · exact .wordTrue
  · exact .wordFalse

theorem writes_of_readNumber? (h : readNumber? text = some (v, rest)) :
    ∃ written, Writes v written ∧ text = written ++ rest := by
  unfold readNumber? at h
  split at h
  rename_i negative body heq
  split at h
  · rename_i d left hread
    split at h
    · rename_i hnumber
      cases h
      obtain ⟨written, hwrites, rfl⟩ := Decimal.writes_of_read? hread
      split at heq
      · cases heq
        exact ⟨_, .negative hwrites hnumber, rfl⟩
      · cases heq
        exact ⟨_, .number hwrites hnumber, rfl⟩
    · cases h
  · cases h

/-- **A word or a number that is taken was written.** -/
theorem writes_of_readScalar? (h : readScalar? text = some (v, rest)) :
    ∃ written, Writes v written ∧ text = written ++ rest := by
  unfold readScalar? at h
  split at h
  · rename_i result hword
    cases h
    obtain ⟨⟨word, v⟩, hmem, hword⟩ := List.exists_of_findSome?_eq_some hword
    obtain ⟨rest, hprefix, heq⟩ := Option.map_eq_some_iff.mp hword
    cases heq
    exact ⟨word, writes_of_mem_words hmem, (List.isPrefixOf?_eq_some_iff_append_eq.mp hprefix).symm⟩
  · exact writes_of_readNumber? h

end Scalars

end DocQuery.Json
