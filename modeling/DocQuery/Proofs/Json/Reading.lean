import DocQuery.Proofs.Json.Grammar
import Mathlib.Data.List.DropRight

/-!
# Reading what the grammar of JSON writes

* `Json.readValue?_of_writesPadded`: a value that is written is taken from the front of a text.
* `Json.writesPadded_of_readValue?`: a value that is taken was written.
* **`Json.parse?_eq_some_iff`**: a text is read as a tree just if it is one of the texts of the tree.
* `Json.WritesPadded.unique`, `Json.WritesPadded.skipBlanks_eq_nil`: a text writes one tree at most,
  and no text of a tree goes on as that of another one.
-/

namespace DocQuery.Json

section Steps

variable {v : Json} {items : List Json} {entries : List (Option Text × Json)} {key : Option Text}
  {text body left more later others rest : Text} {fuel : Nat} {c : Char}

/-! ## Steps of the readers -/

theorem skipBlanks_skipBlanks (text : Text) : skipBlanks (skipBlanks text) = skipBlanks text :=
  List.dropWhile_idempotent isBlank text

theorem readValue?_skipBlanks (fuel : Nat) (text : Text) :
    readValue? fuel (skipBlanks text) = readValue? fuel text := by
  cases fuel with
  | zero => rw [readValue?, readValue?]
  | succ fuel => rw [readValue?, readValue?, skipBlanks_skipBlanks]

theorem readItems?_skipBlanks (fuel : Nat) (text : Text) :
    readItems? fuel (skipBlanks text) = readItems? fuel text := by
  cases fuel with
  | zero => rw [readItems?, readItems?]
  | succ fuel => rw [readItems?, readItems?, readValue?_skipBlanks]

theorem readEntries?_skipBlanks (fuel : Nat) (text : Text) :
    readEntries? fuel (skipBlanks text) = readEntries? fuel text := by
  cases fuel with
  | zero => rw [readEntries?, readEntries?]
  | succ fuel => rw [readEntries?, readEntries?, skipBlanks_skipBlanks]

theorem readValue?_scalar (hblank : isBlank c = false) (h : c ∉ ['"', '[', '{']) (rest : Text) :
    readValue? (fuel + 1) (c :: rest) = readScalar? (c :: rest) := by
  rw [readValue?, skipBlanks_cons hblank]
  split
  all_goals rename_i heq
  · cases heq
    exact absurd (by decide) h
  · cases heq
    exact absurd (by decide) h
  · cases heq
    exact absurd (by decide) h
  · rfl

theorem readValue?_quote (h : readString? text = some (key, rest)) :
    readValue? (fuel + 1) ('"' :: text) = some (.string key, rest) := by
  rw [readValue?, skipBlanks_cons (by decide)]
  simp only [h, Option.map_some]

theorem readValue?_emptyArray (h : skipBlanks text = ']' :: rest) :
    readValue? (fuel + 1) ('[' :: text) = some (.array [], rest) := by
  rw [readValue?, skipBlanks_cons (by decide)]
  simp only [h]

theorem readValue?_array (hne : (skipBlanks text).head? ≠ some ']')
    (h : readItems? fuel text = some (items, rest)) :
    readValue? (fuel + 1) ('[' :: text) = some (.array items, rest) := by
  rw [readValue?, skipBlanks_cons (by decide)]
  simp only
  split
  · rename_i heq
    exact absurd (by rw [heq]; rfl) hne
  · rw [readItems?_skipBlanks, h, Option.map_some]

theorem readValue?_emptyObject (h : skipBlanks text = '}' :: rest) :
    readValue? (fuel + 1) ('{' :: text) = some (.object [], rest) := by
  rw [readValue?, skipBlanks_cons (by decide)]
  simp only [h]

theorem readValue?_object (hne : (skipBlanks text).head? ≠ some '}')
    (h : readEntries? fuel text = some (entries, rest)) :
    readValue? (fuel + 1) ('{' :: text) = some (.object entries, rest) := by
  rw [readValue?, skipBlanks_cons (by decide)]
  simp only
  split
  · rename_i heq
    exact absurd (by rw [heq]; rfl) hne
  · rw [readEntries?_skipBlanks, h, Option.map_some]

theorem readItems?_last (h : readValue? fuel text = some (v, left))
    (hleft : skipBlanks left = ']' :: rest) :
    readItems? (fuel + 1) text = some ([v], rest) := by
  simp [readItems?, h, hleft]

theorem readItems?_cons (h : readValue? fuel text = some (v, left))
    (hleft : skipBlanks left = ',' :: more) (hmore : readItems? fuel more = some (items, rest)) :
    readItems? (fuel + 1) text = some (v :: items, rest) := by
  simp [readItems?, h, hleft, hmore]

theorem readEntries?_last (hquote : skipBlanks text = '"' :: body)
    (hkey : readString? body = some (key, left)) (hcolon : skipBlanks left = ':' :: more)
    (h : readValue? fuel more = some (v, later)) (hleft : skipBlanks later = '}' :: rest) :
    readEntries? (fuel + 1) text = some ([(key, v)], rest) := by
  simp [readEntries?, hquote, hkey, hcolon, h, hleft]

theorem readEntries?_cons (hquote : skipBlanks text = '"' :: body)
    (hkey : readString? body = some (key, left)) (hcolon : skipBlanks left = ':' :: more)
    (h : readValue? fuel more = some (v, later)) (hleft : skipBlanks later = ',' :: others)
    (hmore : readEntries? fuel others = some (entries, rest)) :
    readEntries? (fuel + 1) text = some ((key, v) :: entries, rest) := by
  simp [readEntries?, hquote, hkey, hcolon, h, hleft, hmore]

end Steps

/-! ## What is written is taken -/

theorem endsNumber_nil : EndsNumber [] := fun _ h => nomatch h

theorem endsNumber_cons {c : Char} (h : c ∈ [',', ']', '}']) (rest : Text) :
    EndsNumber (c :: rest) := by
  intro d hd
  cases hd
  simp only [List.mem_cons, List.not_mem_nil, or_false] at h
  rcases h with rfl | rfl | rfl <;> decide

theorem head?_skipBlanks_of_writesItems {items : List Json} {text : Text}
    (h : WritesItems items text) (rest : Text) :
    (skipBlanks (text ++ rest)).head? ≠ some ']' := by
  cases h with
  | last h | cons h =>
    obtain ⟨hbefore, h, -⟩ := h
    obtain ⟨c, text, rfl, hblank, hc⟩ := h.exists_cons
    simp only [List.append_assoc, List.cons_append, skipBlanks_append_cons hbefore hblank]
    simpa using hc

/-- A key is taken behind its first quote. -/
theorem readString?_of_padded {key : Option Text} {before name : Text} (hbefore : IsBlanks before)
    (hkey : WritesString key name) (rest : Text) :
    ∃ body, skipBlanks (before ++ (name ++ rest)) = '"' :: body ∧
      readString? body = some (key, rest) := by
  obtain ⟨body, hbody, hread⟩ := readString?_of_writes hkey rest
  refine ⟨body, ?_, hread⟩
  rw [hbody, skipBlanks_append_cons hbefore (by decide)]

theorem head?_skipBlanks_of_writesEntries {entries : List (Option Text × Json)} {text : Text}
    (h : WritesEntries entries text) (rest : Text) :
    (skipBlanks (text ++ rest)).head? ≠ some '}' := by
  cases h with
  | last hbefore hkey | cons hbefore hkey =>
    obtain ⟨body, hbody, -⟩ := readString?_of_padded hbefore hkey _
    rw [List.append_assoc, List.append_assoc, hbody]
    simp

-- The text of a value has brackets around the text of its items, and the text of items has commas
-- between those of values. Twice its length is enough for a call of both readers each time.
mutual

/-- A value that is written is taken from the front of a text. -/
theorem readValue?_of_writes {v : Json} {text : Text} (h : Writes v text) {fuel : Nat}
    (hfuel : 2 * text.length ≤ fuel) {rest : Text} (hrest : EndsNumber rest) :
    readValue? fuel (text ++ rest) = some (v, rest) := by
  obtain ⟨fuel, rfl⟩ : ∃ n, fuel = n + 1 := by
    obtain ⟨c, text, rfl, -⟩ := h.exists_cons
    rw [List.length_cons] at hfuel
    exact Nat.exists_eq_add_one.mpr (by omega)
  cases h with
  | wordNull | wordTrue | wordFalse => exact readValue?_scalar (by decide) (by decide) _
  | number hwrites h =>
    have hread := readScalar?_of_number hwrites h hrest
    obtain ⟨c, text, rfl, hc⟩ := exists_cons_of_isJsonNumber hwrites h
    exact (readValue?_scalar (isBlank_of_isDigit hc) (not_mem_of_isDigit hc) _).trans hread
  | negative hwrites h =>
    exact (readValue?_scalar (by decide) (by decide) _).trans
      (readScalar?_of_negative hwrites h hrest)
  | string h =>
    obtain ⟨body, hbody, hread⟩ := readString?_of_writes h rest
    rw [hbody]
    exact readValue?_quote hread
  | emptyArray h =>
    rw [List.cons_append, List.append_assoc]
    exact readValue?_emptyArray (skipBlanks_append_cons h (by decide) rest)
  | array h =>
    rw [List.length_cons, List.length_append] at hfuel
    rw [List.cons_append, List.append_assoc]
    exact readValue?_array (head?_skipBlanks_of_writesItems h _)
      (readItems?_of_writes h (by omega) rest)
  | emptyObject h =>
    rw [List.cons_append, List.append_assoc]
    exact readValue?_emptyObject (skipBlanks_append_cons h (by decide) rest)
  | object h =>
    rw [List.length_cons, List.length_append] at hfuel
    rw [List.cons_append, List.append_assoc]
    exact readValue?_object (head?_skipBlanks_of_writesEntries h _)
      (readEntries?_of_writes h (by omega) rest)
termination_by (fuel, 0)

/-- A value with blanks around it is taken, up to blanks behind it. -/
theorem readValue?_of_writesPadded {v : Json} {text : Text} (h : WritesPadded v text) {fuel : Nat}
    (hfuel : 2 * text.length ≤ fuel) {rest : Text} (hrest : EndsNumber rest) :
    ∃ left, readValue? fuel (text ++ rest) = some (v, left) ∧
      skipBlanks left = skipBlanks rest := by
  cases h with
  | pad hbefore h hafter =>
    refine ⟨_, ?_, skipBlanks_append hafter rest⟩
    rw [List.append_assoc, List.append_assoc, ← readValue?_skipBlanks, skipBlanks_append hbefore,
      readValue?_skipBlanks]
    rw [List.length_append, List.length_append] at hfuel
    exact readValue?_of_writes h (by omega) (endsNumber_append hafter hrest)
termination_by (fuel, 1)

/-- Items that are written are taken, up to the closing bracket. -/
theorem readItems?_of_writes {items : List Json} {text : Text} (h : WritesItems items text)
    {fuel : Nat} (hfuel : 2 * text.length + 1 ≤ fuel) (rest : Text) :
    readItems? fuel (text ++ ']' :: rest) = some (items, rest) := by
  obtain ⟨fuel, rfl⟩ := Nat.exists_eq_add_one.mpr (show 0 < fuel by omega)
  cases h with
  | last h =>
    obtain ⟨left, hread, hleft⟩ := readValue?_of_writesPadded h (show _ ≤ fuel by omega)
      (endsNumber_cons (c := ']') (by decide) rest)
    rw [skipBlanks_cons (by decide)] at hleft
    exact readItems?_last hread hleft
  | cons h hitems =>
    rename_i items text more
    simp only [List.length_append, List.length_cons] at hfuel
    obtain ⟨left, hread, hleft⟩ := readValue?_of_writesPadded h (show _ ≤ fuel by omega)
      (endsNumber_cons (c := ',') (by decide) (more ++ ']' :: rest))
    rw [skipBlanks_cons (by decide)] at hleft
    rw [List.append_assoc]
    exact readItems?_cons hread hleft (readItems?_of_writes hitems (by omega) rest)
termination_by (fuel, 0)

/-- Entries that are written are taken, up to the closing brace. -/
theorem readEntries?_of_writes {entries : List (Option Text × Json)} {text : Text}
    (h : WritesEntries entries text) {fuel : Nat} (hfuel : 2 * text.length + 1 ≤ fuel)
    (rest : Text) : readEntries? fuel (text ++ '}' :: rest) = some (entries, rest) := by
  obtain ⟨fuel, rfl⟩ := Nat.exists_eq_add_one.mpr (show 0 < fuel by omega)
  cases h with
  | last hbefore hkey hafter h =>
    simp only [List.length_append, List.length_cons] at hfuel
    obtain ⟨body, hbody, hname⟩ := readString?_of_padded hbefore hkey _
    obtain ⟨left, hread, hleft⟩ := readValue?_of_writesPadded h (show _ ≤ fuel by omega)
      (endsNumber_cons (c := '}') (by decide) rest)
    rw [skipBlanks_cons (by decide)] at hleft
    simp only [List.append_assoc, List.cons_append]
    exact readEntries?_last hbody hname (skipBlanks_append_cons hafter (by decide) _) hread hleft
  | cons hbefore hkey hafter h hentries =>
    rename_i entries before name after text more
    simp only [List.length_append, List.length_cons] at hfuel
    obtain ⟨body, hbody, hname⟩ := readString?_of_padded hbefore hkey _
    obtain ⟨left, hread, hleft⟩ := readValue?_of_writesPadded h (show _ ≤ fuel by omega)
      (endsNumber_cons (c := ',') (by decide) (more ++ '}' :: rest))
    rw [skipBlanks_cons (by decide)] at hleft
    simp only [List.append_assoc, List.cons_append]
    exact readEntries?_cons hbody hname (skipBlanks_append_cons hafter (by decide) _) hread hleft
      (readEntries?_of_writes hentries (by omega) rest)
termination_by (fuel, 0)

end

/-! ## What is taken was written -/

/-- A value that stands behind blanks and in front of blanks. -/
theorem exists_padded {v : Json} {text written rest : Text} (h : Writes v written)
    (heq : skipBlanks text = written ++ rest) :
    ∃ padded, WritesPadded v padded ∧ text = padded ++ skipBlanks rest := by
  obtain ⟨before, hbefore, htext⟩ := exists_skipBlanks text
  obtain ⟨after, hafter, hrest⟩ := exists_skipBlanks rest
  refine ⟨_, .pad hbefore h hafter, ?_⟩
  rw [List.append_assoc, List.append_assoc, ← hrest, ← heq, ← htext]

-- By induction on the fuel, of which each reader leaves less to those that it calls.
mutual

/-- A value that is taken was written, with blanks around it. -/
theorem writesPadded_of_readValue? {fuel : Nat} {text : Text} {v : Json} {rest : Text}
    (h : readValue? fuel text = some (v, rest)) :
    ∃ written, WritesPadded v written ∧ text = written ++ skipBlanks rest := by
  cases fuel with
  | zero => cases h
  | succ fuel =>
    suffices hwritten : ∃ written, Writes v written ∧ skipBlanks text = written ++ rest by
      obtain ⟨written, hwrites, heq⟩ := hwritten
      exact exists_padded hwrites heq
    rw [readValue?] at h
    split at h
    · rename_i body heq
      obtain ⟨⟨s, left⟩, hread, hsome⟩ := Option.map_eq_some_iff.mp h
      cases hsome
      obtain ⟨written, hwrites, hbody⟩ := writesString_of_readString? hread
      exact ⟨written, .string hwrites, heq.trans hbody⟩
    · rename_i body heq
      obtain ⟨blanks, hblanks, hbody⟩ := exists_skipBlanks body
      split at h
      · rename_i hclose
        cases h
        refine ⟨_, .emptyArray hblanks, ?_⟩
        rw [heq, hbody, hclose]
        simp
      · obtain ⟨⟨items, left⟩, hread, hsome⟩ := Option.map_eq_some_iff.mp h
        cases hsome
        rw [readItems?_skipBlanks] at hread
        obtain ⟨written, hwrites, rfl⟩ := writesItems_of_readItems? hread
        refine ⟨_, .array hwrites, ?_⟩
        rw [heq]
        simp
    · rename_i body heq
      obtain ⟨blanks, hblanks, hbody⟩ := exists_skipBlanks body
      split at h
      · rename_i hclose
        cases h
        refine ⟨_, .emptyObject hblanks, ?_⟩
        rw [heq, hbody, hclose]
        simp
      · obtain ⟨⟨entries, left⟩, hread, hsome⟩ := Option.map_eq_some_iff.mp h
        cases hsome
        rw [readEntries?_skipBlanks] at hread
        obtain ⟨written, hwrites, rfl⟩ := writesEntries_of_readEntries? hread
        refine ⟨_, .object hwrites, ?_⟩
        rw [heq]
        simp
    · exact writes_of_readScalar? h
termination_by fuel

/-- Items that are taken were written in front of a closing bracket. -/
theorem writesItems_of_readItems? {fuel : Nat} {text : Text} {items : List Json} {rest : Text}
    (h : readItems? fuel text = some (items, rest)) :
    ∃ written, WritesItems items written ∧ text = written ++ ']' :: rest := by
  cases fuel with
  | zero => cases h
  | succ fuel =>
    rw [readItems?] at h
    obtain ⟨⟨v, left⟩, hread, hbehind⟩ := Option.bind_eq_some_iff.mp h
    obtain ⟨written, hwrites, rfl⟩ := writesPadded_of_readValue? hread
    dsimp only at hbehind
    split at hbehind
    · rename_i more hcomma
      obtain ⟨⟨items, rest⟩, hitems, hsome⟩ := Option.bind_eq_some_iff.mp hbehind
      cases hsome
      obtain ⟨others, hothers, rfl⟩ := writesItems_of_readItems? hitems
      refine ⟨_, .cons hwrites hothers, ?_⟩
      rw [hcomma]
      simp
    · rename_i hclose
      cases hbehind
      exact ⟨_, .last hwrites, by rw [hclose]⟩
    · cases hbehind
termination_by fuel

/-- Entries that are taken were written in front of a closing brace. -/
theorem writesEntries_of_readEntries? {fuel : Nat} {text : Text}
    {entries : List (Option Text × Json)} {rest : Text}
    (h : readEntries? fuel text = some (entries, rest)) :
    ∃ written, WritesEntries entries written ∧ text = written ++ '}' :: rest := by
  cases fuel with
  | zero => cases h
  | succ fuel =>
    rw [readEntries?] at h
    split at h
    · rename_i body hquote
      obtain ⟨⟨key, left⟩, hkey, hbehind⟩ := Option.bind_eq_some_iff.mp h
      obtain ⟨before, hbefore, htext⟩ := exists_skipBlanks text
      obtain ⟨after, hafter, hleft⟩ := exists_skipBlanks left
      obtain ⟨name, hname, hbody⟩ := writesString_of_readString? hkey
      dsimp only at hbehind
      split at hbehind
      · rename_i more hcolon
        obtain ⟨⟨v, later⟩, hread, hend⟩ := Option.bind_eq_some_iff.mp hbehind
        obtain ⟨written, hwrites, rfl⟩ := writesPadded_of_readValue? hread
        have hfront : text = before ++ (name ++ (after ++ ':' :: (written ++ skipBlanks later))) := by
          rw [← hcolon, ← hleft, ← hbody, ← hquote, ← htext]
        dsimp only at hend
        split at hend
        · rename_i others hcomma
          obtain ⟨⟨entries, rest⟩, hentries, hsome⟩ := Option.bind_eq_some_iff.mp hend
          cases hsome
          obtain ⟨_, hrest, rfl⟩ := writesEntries_of_readEntries? hentries
          refine ⟨_, .cons hbefore hname hafter hwrites hrest, ?_⟩
          rw [hfront, hcomma]
          simp
        · rename_i hclose
          cases hend
          refine ⟨_, .last hbefore hname hafter hwrites, ?_⟩
          rw [hfront, hclose]
          simp
        · cases hend
      · cases hbehind
    · cases h
termination_by fuel

end

/-! ## Texts and their trees -/

/-- **A text is read as a tree just if it is one of the texts of the tree.** -/
theorem parse?_eq_some_iff {text : Text} {v : Json} :
    parse? text = some v ↔ WritesPadded v text := by
  constructor
  · intro h
    unfold parse? at h
    split at h
    · rename_i json rest hread
      split at h
      · rename_i hrest
        cases h
        obtain ⟨written, hwrites, rfl⟩ := writesPadded_of_readValue? hread
        rw [List.isEmpty_iff.mp hrest, List.append_nil]
        exact hwrites
      · cases h
    · cases h
  · intro h
    obtain ⟨left, hread, hleft⟩ := readValue?_of_writesPadded h
      (show 2 * text.length ≤ 2 * text.length + 2 by omega) endsNumber_nil
    rw [List.append_nil] at hread
    rw [parse?, hread]
    simp only [hleft]
    rfl

theorem Writes.padded {v : Json} {text : Text} (h : Writes v text) : WritesPadded v text := by
  have hnil : IsBlanks [] := fun _ h => nomatch h
  simpa using WritesPadded.pad hnil h hnil

/-- **No text writes two trees.** -/
theorem WritesPadded.unique {v w : Json} {text : Text} (hv : WritesPadded v text)
    (hw : WritesPadded w text) : v = w := by
  rw [← parse?_eq_some_iff] at hv hw
  exact Option.some.inj (hv.symm.trans hw)

/-- **No text of a tree ends inside another one**, unless a number goes on there or only blanks
follow. -/
theorem WritesPadded.skipBlanks_eq_nil {v w : Json} {text rest : Text} (hv : WritesPadded v text)
    (hw : WritesPadded w (text ++ rest)) (hrest : EndsNumber rest) : skipBlanks rest = [] := by
  have hfuel : 2 * text.length ≤ 2 * (text ++ rest).length := by
    rw [List.length_append]
    omega
  obtain ⟨left, hshort, hleft⟩ := readValue?_of_writesPadded hv hfuel hrest
  obtain ⟨_, hlong, hend⟩ := readValue?_of_writesPadded hw (Nat.le_refl _) endsNumber_nil
  rw [List.append_nil, hshort] at hlong
  cases hlong
  exact hleft.symm.trans hend

end DocQuery.Json
