import DocQuery.Proofs.Json.Reading
import DocQuery.Proofs.Json.Value
import DocQuery.Proofs.Projection.Share

/-!
# Projections of one literal

A value is split at its commas before any literal in it is seen. A JSON object of one entry is taken
over as it was written just if its text has no comma.

* `Projection.readLiteral_of_writes`: the entry of an object that is read as a whole.
* `Projection.readLiteral_ne_ok`, `Projection.ne_key_of_comma`: what stands in front of a comma is
  neither a literal nor the key.
* **`Projection.parse_literal`**: the projection of a text that writes an object of one entry.
* `Projection.not_literal_exact`: an object whose value is a list of two numbers.
-/

namespace DocQuery

namespace Json

variable {entries : List (Option Text × Json)} {key : Text} {v : Json} {text name : Text}

/-- The text of an object with entries begins with a brace and its first key. -/
theorem Writes.exists_name (h : Writes (.object ((some key, v) :: entries)) text) :
    ∃ blanks name, IsBlanks blanks ∧ WritesString (some key) name ∧
      '{' :: (blanks ++ name) <+: text := by
  cases h with
  | object h =>
    cases h with
    | last hbefore hkey | cons hbefore hkey => exact ⟨_, _, hbefore, hkey, by simp⟩

theorem Writes.getLast?_object (h : Writes (.object entries) text) :
    text.getLast? = some '}' := by
  cases h <;> exact List.getLast?_concat (l := '{' :: _)

theorem WritesString.length_lt (h : WritesString (some key) name) : key.length < name.length := by
  generalize hspelled : some key = s at h
  cases h with
  | quoted h =>
    have hkey := length_le_of_textOfUnits? hspelled.symm
    have hunits := h.length_le
    simp only [List.length_cons, List.length_append, List.length_nil]
    omega

/-- A comma of a string is one of the text it spells. -/
theorem WritesString.comma_mem (h : WritesString (some key) name) (hcomma : ',' ∈ name) :
    ',' ∈ key := by
  generalize hspelled : some key = s at h
  cases h with
  | quoted h =>
    refine mem_of_textOfUnits? hspelled.symm (h.mem (by decide) (by decide) rfl rfl ?_)
    simpa using hcomma

end Json

namespace Projection

open Outcome

variable {key text piece rest : Text} {v : Json} {w : Value}

/-! ## A literal by itself -/

theorem exists_isSound {depth : Nat} (h : (Json.object [(some key, v)]).isSound depth = true) :
    ∃ n, v.isSound n = true := by
  cases depth with
  | zero => cases h
  | succ n =>
    rw [Json.isSound, Json.areSoundEntries, Bool.and_eq_true, Bool.and_eq_true] at h
    exact ⟨n, h.1.2⟩

theorem readLiteral_of_writes (hwrites : Json.Writes (.object [(some key, v)]) text)
    (hsound : (Json.object [(some key, v)]).isSound maxDepth = true) (hvalue : v.value? = some w) :
    readLiteral text = .ok (key, w) := by
  unfold readLiteral
  rw [Json.parse?_eq_some_iff.mpr hwrites.padded]
  simp only [hsound, if_true, hvalue]

theorem head?_of_writes {entries : List (Option Text × Json)}
    (h : Json.Writes (.object entries) text) : text.head? = some '{' := by
  cases h <;> rfl

theorem isLiteral_of_writes {entries : List (Option Text × Json)}
    (h : Json.Writes (.object entries) text) : isLiteral text = true := by
  rw [isLiteral, head?_of_writes h, h.getLast?_object]
  rfl

theorem readEntry_of_head? (hhead : text.head? = some '{') :
    readEntry text = if isLiteral text then (readLiteral text).mapError (.literal text)
      else .ok (text, .int32 1) := by
  cases text with
  | nil => cases hhead
  | cons c text =>
    cases hhead
    rfl

/-! ## In front of a comma -/

theorem head?_piece (h : (piece ++ ',' :: rest).head? = some '{') : piece.head? = some '{' := by
  cases piece with
  | nil => cases h
  | cons c piece => exact h

/-- No object ends inside the text of another one. -/
theorem readLiteral_ne_ok {json : Json} (hwrites : json.Writes (piece ++ ',' :: rest))
    (entry : Text × Value) : readLiteral piece ≠ .ok entry := by
  intro h
  unfold readLiteral at h
  split at h
  · rename_i entries hparse
    have hnil := (Json.parse?_eq_some_iff.mp hparse).skipBlanks_eq_nil hwrites.padded
      (Json.endsNumber_cons (by decide) rest)
    rw [Json.skipBlanks_cons (by decide)] at hnil
    cases hnil
  · cases h

/-- What stands in front of a comma is not the key. -/
theorem ne_key_of_comma {entries : List (Option Text × Json)}
    (hwrites : Json.Writes (.object ((some key, v) :: entries)) (piece ++ ',' :: rest))
    (hpiece : ',' ∉ piece) : piece ≠ key := by
  rintro rfl
  obtain ⟨blanks, name, hblanks, hname, more, heq⟩ := hwrites.exists_name
  have hlength := hname.length_lt
  have hcomma : ',' ∉ '{' :: (blanks ++ name) := by
    simp only [List.mem_cons, List.mem_append, not_or]
    exact ⟨by decide, fun h => absurd (hblanks ',' h) (by decide), mt hname.comma_mem hpiece⟩
  -- the piece goes beyond the written key, which is longer than what it spells
  rcases List.append_eq_append_iff.mp heq with ⟨others, hpiece, -⟩ | ⟨others, hfront, hothers⟩
  · have hlonger := congrArg List.length hpiece
    simp only [List.length_append, List.length_cons] at hlonger
    omega
  · cases others with
    | nil =>
      have hlonger := congrArg List.length hfront
      simp only [List.length_append, List.length_cons, List.length_nil] at hlonger
      omega
    | cons c others =>
      cases hothers
      exact hcomma (hfront ▸ by simp)

/-! ## Projections -/

/-- The key of the first token is one of the projection. -/
theorem mem_keys_of_parse {fields : Document} (hpiece : ',' ∉ piece)
    (h : (parse (piece ++ ',' :: rest) []).1 = .ok (some fields)) :
    ∃ entry, readEntry piece = .ok entry ∧ entry.1 ∈ Dict.keys fields := by
  rw [parse_fst, tokens, if_neg (by simp), List.splitOn_append_cons_self_of_not_mem hpiece,
    topEntries_cons_of_not_belongs _ (by simp [belongs, Population.names]), map_eq_ok] at h
  obtain ⟨entries, htokens, hfields⟩ := h
  obtain ⟨entry, hentry, hrest⟩ := bind_eq_ok.mp htokens
  obtain ⟨others, -, rfl⟩ := map_eq_ok.mp hrest
  refine ⟨entry, hentry, ?_⟩
  have hfields : Dict.ofList (entry :: others) = fields := by
    rw [← getD_ofFields (Dict.ofList _), hfields, Option.getD_some]
  rw [← hfields, Dict.ofList, Dict.mem_keys_insertAll]
  exact .inl List.mem_cons_self

theorem parse_of_not_mem (hne : text ≠ []) (h : ',' ∉ text)
    (hentry : readEntry text = .ok (key, w)) : parse text [] = (.ok (some [(key, w)]), []) := by
  have hroute : route? text [] = none :=
    route?_of_not_belongs (by simp [belongs, Population.names])
  rw [parse, if_neg (by simpa using hne), List.splitOn_eq_singleton h,
    parseTokens_of_readEntry_ok hroute [] [] hentry]
  rfl

/-- **A projection of one literal** is the entry of the object that it writes, just if there is no
comma in its text. -/
theorem parse_literal (hwrites : Json.Writes (.object [(some key, v)]) text)
    (hsound : (Json.object [(some key, v)]).isSound maxDepth = true) (hfits : v.fits = true) :
    ∃ w, v.value? = some w ∧
      (parse text [] = (.ok (some [(key, w)]), []) ↔ ',' ∉ text) := by
  obtain ⟨_, hv⟩ := exists_isSound hsound
  obtain ⟨w, hvalue⟩ := Option.isSome_iff_exists.mp ((Json.isSome_value? hv).trans hfits)
  have hhead := head?_of_writes hwrites
  refine ⟨w, hvalue, fun h hcomma => ?_, fun hcomma => ?_⟩
  · obtain ⟨piece, rest, rfl, hpiece⟩ := List.eq_append_cons_of_mem hcomma
    obtain ⟨entry, hentry, hkey⟩ := mem_keys_of_parse hpiece (congrArg Prod.fst h)
    rw [readEntry_of_head? (head?_piece hhead)] at hentry
    split at hentry
    · exact readLiteral_ne_ok hwrites entry (mapError_eq_ok.mp hentry)
    · cases hentry
      exact ne_key_of_comma hwrites hpiece (by simpa [Dict.keys] using hkey)
  · have hne : text ≠ [] := by
      rintro rfl
      cases hhead
    refine parse_of_not_mem hne hcomma ?_
    rw [readEntry_of_head? hhead, if_pos (isLiteral_of_writes hwrites),
      readLiteral_of_writes hwrites hsound hvalue]
    rfl

/-! ## Literals without and with a comma -/

/-- The tree of a number of one digit. -/
def digitJson (c : Char) : Json := .number false ⟨[c], none, none⟩

theorem writes_digitJson {c : Char} (h : c.isDigit = true) : Json.Writes (digitJson c) [c] := by
  have hdigits : IsDigits [c] := fun d hd => by rwa [List.mem_singleton.mp hd]
  refine .number (.parts hdigits .none .none) ?_
  by_cases hzero : c = '0' <;> simp [Json.isJsonNumber, Decimal.endsInDigit, hzero]

theorem value?_digitJson {c : Char} {n : Int}
    (h : Json.numberOf? false ⟨[c], none, none⟩ = some (.integer n)) :
    (digitJson c).value? = (toInt64? n).map .int64 := by
  rw [digitJson, Json.value?, h]

/-- The text `{"games":{"$slice":5}}`. -/
def sliceText : Text := "\x7b\"games\":\x7b\"$slice\":5\x7d\x7d".toList

theorem writes_sliceText :
    Json.Writes (.object [(some "games".toList, .object [(some "$slice".toList, digitJson '5')])])
      sliceText := by
  have hnil : Json.IsBlanks [] := fun _ h => nomatch h
  have hfive := writes_digitJson (c := '5') (by decide)
  have hslice : Json.Writes (.object [(some "$slice".toList, digitJson '5')]) _ :=
    .object (.last hnil (.plain (by decide)) hnil hfive.padded)
  exact .object (.last hnil (.plain (by decide)) hnil hslice.padded)

theorem parse_literal_slice :
    Json.Writes (.object [(some "games".toList, .object [(some "$slice".toList, digitJson '5')])])
        sliceText ∧
      (Json.object [(some "games".toList, .object [(some "$slice".toList, digitJson '5')])]).isSound
        maxDepth = true ∧
        (Json.object [(some "$slice".toList, digitJson '5')]).fits = true ∧
          parse sliceText [] =
            (.ok (some [("games".toList, .document [("$slice".toList, .int64 5)])]), []) := by
  have hsound : (Json.object [(some "games".toList,
      .object [(some "$slice".toList, digitJson '5')])]).isSound maxDepth = true := by decide
  have hfits : (Json.object [(some "$slice".toList, digitJson '5')]).fits = true := by decide
  obtain ⟨w, hvalue, hparse⟩ := parse_literal writes_sliceText hsound hfits
  have hw : (Json.object [(some "$slice".toList, digitJson '5')]).value? =
      some (.document [("$slice".toList, .int64 5)]) := by
    rw [Json.value?, Json.entries?, value?_digitJson (n := 5) (by decide)]
    rfl
  obtain rfl := Option.some.inj (hvalue.symm.trans hw)
  exact ⟨writes_sliceText, hsound, hfits, hparse.mpr (by decide)⟩

/-- The text `{"a":[1,2]}`. -/
def listText : Text := "\x7b\"a\":[1,2]\x7d".toList

theorem writes_listText :
    Json.Writes (.object [(some "a".toList, .array [digitJson '1', digitJson '2'])]) listText := by
  have hnil : Json.IsBlanks [] := fun _ h => nomatch h
  have hone := writes_digitJson (c := '1') (by decide)
  have htwo := writes_digitJson (c := '2') (by decide)
  have hlist : Json.Writes (.array [digitJson '1', digitJson '2']) _ :=
    .array (.cons hone.padded (.last htwo.padded))
  exact .object (.last hnil (.plain (by decide)) hnil hlist.padded)

/-- A literal with a list of two numbers is taken apart at its comma, and its halves are fields. -/
theorem not_literal_exact :
    Json.Writes (.object [(some "a".toList, .array [digitJson '1', digitJson '2'])]) listText ∧
      (Json.array [digitJson '1', digitJson '2']).value? = some (.array [.int64 1, .int64 2]) ∧
        parse listText [] =
          (.ok (some [("\x7b\"a\":[1".toList, .int32 1), ("2]\x7d".toList, .int32 1)]), []) ∧
          parse listText [] ≠ (.ok (some [("a".toList, .array [.int64 1, .int64 2])]), []) := by
  have hparse : parse listText [] =
      (.ok (some [("\x7b\"a\":[1".toList, .int32 1), ("2]\x7d".toList, .int32 1)]), []) := rfl
  refine ⟨writes_listText, ?_, hparse, ?_⟩
  · rw [Json.value?, Json.values?, Json.values?, Json.values?, value?_digitJson (n := 1) (by decide),
      value?_digitJson (n := 2) (by decide)]
    rfl
  · rw [hparse]
    simp

end Projection

end DocQuery
