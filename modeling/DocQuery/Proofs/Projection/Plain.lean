import DocQuery.Proofs.Dict.Last
import DocQuery.Proofs.Json.Reading
import DocQuery.Proofs.Projection.Share

/-!
# Projections without relations

Where nothing is routed, each token of a projection asks for one entry by itself.

* `Decodes`, `Faulty`: the entry that a literal decodes to, and what is wrong with one that does
  not. **`readLiteral_eq_ok_iff`**, **`readLiteral_eq_error_iff`**: literals are read just so.
* `Asks`, `IsRefused`: the entry that a token asks for, and tokens that ask for none.
* **`exists_asks_iff`**: a token asks for an entry unless it is refused.
* **`parse_plain`**: what a projection without relations is, and when there is none.
-/

namespace DocQuery

namespace Projection

open Outcome

variable {token value : Text} {entry : Text × Value} {fault : LiteralFault} {e : QueryError}

/-! ## Literals -/

/-- The first entry of the JSON object that a literal writes, with its value. -/
inductive Decodes : Text → Text × Value → Prop
  | first {token key : Text} {v : Json} {others : List (Option Text × Json)} {w : Value}
      (hwrites : Json.WritesPadded (.object ((some key, v) :: others)) token)
      (hsound : (Json.object ((some key, v) :: others)).isSound maxDepth = true)
      (hvalue : v.value? = some w) : Decodes token (key, w)

/-- What is wrong with a literal: it writes no sound JSON object, one without entries, or one whose
first entry has an integer too large for a value. -/
inductive Faulty : Text → LiteralFault → Prop
  | malformed {token : Text}
      (h : ∀ entries, Json.WritesPadded (.object entries) token →
        (Json.object entries).isSound maxDepth = false) : Faulty token .malformed
  | empty {token : Text} (hwrites : Json.WritesPadded (.object []) token) : Faulty token .empty
  | tooLarge {token key : Text} {v : Json} {others : List (Option Text × Json)}
      (hwrites : Json.WritesPadded (.object ((some key, v) :: others)) token)
      (hsound : (Json.object ((some key, v) :: others)).isSound maxDepth = true)
      (hvalue : v.value? = none) : Faulty token .tooLarge

theorem isSome_of_isSound {key : Option Text} {v : Json} {others : List (Option Text × Json)}
    {depth : Nat} (h : (Json.object ((key, v) :: others)).isSound depth = true) :
    key.isSome = true := by
  cases depth with
  | zero => cases h
  | succ depth =>
    rw [Json.isSound, Json.areSoundEntries, Bool.and_eq_true, Bool.and_eq_true] at h
    exact h.1.1

/-- A literal is read as what it decodes to, or what is wrong with it is told. -/
theorem readLiteral_cases (token : Text) :
    (∃ entry, Decodes token entry ∧ readLiteral token = .ok entry) ∨
      ∃ fault, Faulty token fault ∧ readLiteral token = .error fault := by
  have hnone (h : ∀ entries, ¬ Json.WritesPadded (.object entries) token) :
      Faulty token .malformed := .malformed fun entries hwrites => absurd hwrites (h entries)
  cases hparse : Json.parse? token with
  | none =>
    refine .inr ⟨.malformed, hnone fun entries hwrites => ?_, by simp [readLiteral, hparse]⟩
    rw [Json.parse?_eq_some_iff.mpr hwrites] at hparse
    cases hparse
  | some json =>
    have hwrites := Json.parse?_eq_some_iff.mp hparse
    cases json with
    | object entries =>
      cases hsound : (Json.object entries).isSound maxDepth with
      | false =>
        refine .inr ⟨.malformed, .malformed fun others hothers => ?_,
          by simp [readLiteral, hparse, hsound]⟩
        rw [hothers.unique hwrites, hsound]
      | true =>
        rcases entries with _ | ⟨⟨key, v⟩, others⟩
        · exact .inr ⟨.empty, .empty hwrites, by simp [readLiteral, hparse, hsound]⟩
        · obtain ⟨key, rfl⟩ := Option.isSome_iff_exists.mp (isSome_of_isSound hsound)
          cases hvalue : v.value? with
          | none =>
            exact .inr ⟨.tooLarge, .tooLarge hwrites hsound hvalue,
              by simp [readLiteral, hparse, hsound, hvalue]⟩
          | some w =>
            exact .inl ⟨(key, w), .first hwrites hsound hvalue,
              by simp [readLiteral, hparse, hsound, hvalue]⟩
    | null | bool | number | string | array =>
      refine .inr ⟨.malformed, hnone fun entries hobject => ?_, by simp [readLiteral, hparse]⟩
      cases hobject.unique hwrites

theorem Decodes.readLiteral_eq (h : Decodes token entry) : readLiteral token = .ok entry := by
  cases h with
  | first hwrites hsound hvalue =>
    simp [readLiteral, Json.parse?_eq_some_iff.mpr hwrites, hsound, hvalue]

theorem Faulty.readLiteral_eq (h : Faulty token fault) : readLiteral token = .error fault := by
  cases h with
  | malformed h =>
    unfold readLiteral
    split
    · rename_i entries hparse
      rw [h entries (Json.parse?_eq_some_iff.mp hparse)]
      rfl
    · rfl
  | empty hwrites =>
    have hsound : (Json.object []).isSound maxDepth = true := by decide
    simp [readLiteral, Json.parse?_eq_some_iff.mpr hwrites, hsound]
  | tooLarge hwrites hsound hvalue =>
    simp [readLiteral, Json.parse?_eq_some_iff.mpr hwrites, hsound, hvalue]

/-- **A literal is read just as the entry that it decodes to.** -/
theorem readLiteral_eq_ok_iff : readLiteral token = .ok entry ↔ Decodes token entry := by
  refine ⟨fun h => ?_, Decodes.readLiteral_eq⟩
  rcases readLiteral_cases token with ⟨other, hother, hread⟩ | ⟨fault, -, hread⟩
  · rw [hread] at h
    cases h
    exact hother
  · rw [hread] at h
    cases h

/-- **A literal is refused just with what is wrong with it.** -/
theorem readLiteral_eq_error_iff : readLiteral token = .error fault ↔ Faulty token fault := by
  refine ⟨fun h => ?_, Faulty.readLiteral_eq⟩
  rcases readLiteral_cases token with ⟨entry, -, hread⟩ | ⟨other, hother, hread⟩
  · rw [hread] at h
    cases h
  · rw [hread] at h
    cases h
    exact hother

/-! ## Tokens -/

/-- The entry that a token asks for: its field excluded or included, or what a literal decodes
to. -/
inductive Asks : Text → Text × Value → Prop
  | excluded (field : Text) : Asks ('-' :: field) (field, .int32 0)
  | included {token : Text} (hsign : token.head? ≠ some '-') (hliteral : isLiteral token = false) :
      Asks token (token, .int32 1)
  | literal {token : Text} {entry : Text × Value} (hliteral : isLiteral token = true)
      (h : Decodes token entry) : Asks token entry

/-- Whether a token stands in braces but decodes to nothing. -/
def IsRefused (token : Text) : Prop := isLiteral token = true ∧ ∀ entry, ¬ Decodes token entry

theorem head?_ne_of_isLiteral (h : isLiteral token = true) : token.head? ≠ some '-' := by
  intro hsign
  obtain ⟨field, rfl⟩ := List.head?_eq_some_iff.mp hsign
  cases h

theorem readEntry_of_head?_ne (h : token.head? ≠ some '-') :
    readEntry token = if isLiteral token then (readLiteral token).mapError (.literal token)
      else .ok (token, .int32 1) := by
  unfold readEntry
  split
  · exact absurd rfl h
  · rfl

/-- **A token is read just as the entry that it asks for.** -/
theorem readEntry_eq_ok_iff : readEntry token = .ok entry ↔ Asks token entry := by
  constructor
  · intro h
    by_cases hsign : token.head? = some '-'
    · obtain ⟨field, rfl⟩ := List.head?_eq_some_iff.mp hsign
      cases h
      exact .excluded field
    · rw [readEntry_of_head?_ne hsign] at h
      split at h
      · rename_i hliteral
        exact .literal hliteral (readLiteral_eq_ok_iff.mp (mapError_eq_ok.mp h))
      · rename_i hliteral
        cases h
        exact .included hsign (by simpa using hliteral)
  · rintro (field | ⟨hsign, hliteral⟩ | ⟨hliteral, h⟩)
    · rfl
    · rw [readEntry_of_head?_ne hsign, if_neg (by simp [hliteral])]
    · rw [readEntry_of_head?_ne (head?_ne_of_isLiteral hliteral), if_pos hliteral,
        readLiteral_eq_ok_iff.mpr h]
      rfl

/-- **A token asks for an entry unless it is refused.** -/
theorem exists_asks_iff (token : Text) : (∃ entry, Asks token entry) ↔ ¬ IsRefused token := by
  constructor
  · rintro ⟨entry, field | ⟨-, hliteral⟩ | ⟨-, hdecodes⟩⟩ ⟨hrefused, hnone⟩
    · cases hrefused
    · rw [hrefused] at hliteral
      cases hliteral
    · exact hnone entry hdecodes
  · intro h
    by_cases hliteral : isLiteral token = true
    · by_contra hnone
      exact h ⟨hliteral, fun entry hentry => hnone ⟨entry, .literal hliteral hentry⟩⟩
    · by_cases hsign : token.head? = some '-'
      · obtain ⟨field, rfl⟩ := List.head?_eq_some_iff.mp hsign
        exact ⟨_, .excluded field⟩
      · exact ⟨_, .included hsign (by simpa using hliteral)⟩

theorem tokenError?_nil_eq_some_iff :
    tokenError? [] token = some e ↔
      isLiteral token = true ∧ ∃ fault, Faulty token fault ∧ e = .literal token fault := by
  have hbelongs : belongs [] token = false := by simp [belongs]
  rw [tokenError?, hbelongs, Bool.false_or]
  cases hliteral : isLiteral token with
  | false => simp
  | true =>
    simp only [Bool.not_true, Bool.false_eq_true, if_false, true_and, error?_eq_some]
    constructor
    · intro h
      cases hread : readLiteral token with
      | ok entry =>
        rw [hread] at h
        cases h
      | error fault =>
        rw [hread] at h
        cases h
        exact ⟨fault, readLiteral_eq_error_iff.mp hread, rfl⟩
    · rintro ⟨fault, hfault, rfl⟩
      rw [readLiteral_eq_error_iff.mpr hfault]
      rfl

theorem tokenError?_nil_eq_none_iff : tokenError? [] token = none ↔ ¬ IsRefused token := by
  rw [← exists_asks_iff, tokenError?_eq, if_neg (by simp [belongs])]
  cases hentry : readEntry token with
  | ok entry => simpa [error?] using ⟨entry.1, entry.2, readEntry_eq_ok_iff.mp hentry⟩
  | error e =>
    constructor
    · intro h
      cases h
    · rintro ⟨entry, hasks⟩
      rw [readEntry_eq_ok_iff.mpr hasks] at hentry
      cases hentry

/-! ## Projections -/

theorem tokens_of_ne_nil (h : value ≠ []) : tokens value = value.splitOn ',' :=
  if_neg (by simpa using h)

/-- The piece that an empty value has is not refused. -/
theorem findSome?_tokens (value : Text) :
    (tokens value).findSome? (tokenError? []) = (value.splitOn ',').findSome? (tokenError? []) := by
  by_cases h : value = []
  · subst h
    rfl
  · rw [tokens_of_ne_nil h]

theorem parse_nil_snd (value : Text) : (parse value []).2 = [] := by
  refine parse_snd_induction (motive := (· = [])) (fun field sign relations relations' h hnil => ?_)
    value rfl
  have hnames := Population.names_route? h
  subst hnil
  exact List.map_eq_nil_iff.mp hnames

theorem parse_nil_eq_ok_iff {result : Option Document} :
    (parse value []).1 = .ok result ↔
      ∃ entries, List.Forall₂ Asks (tokens value) entries ∧ ofFields (Dict.ofList entries) = result := by
  have htop : topEntries [] (tokens value) = (tokens value).mapM readEntry := by
    rw [topEntries, filter_belongs_nil]
  rw [parse_fst, map_eq_ok]
  change (∃ entries, topEntries [] (tokens value) = .ok entries ∧ _) ↔ _
  simp only [htop, mapM_eq_ok_iff, readEntry_eq_ok_iff]

theorem parse_nil_eq_error_iff_findSome? :
    (parse value []).1 = .error e ↔
      (value.splitOn ',').findSome? (tokenError? []) = some e := by
  rw [← findSome?_tokens]
  exact parse_fst_eq_error

theorem parse_nil_eq_error_iff :
    (parse value []).1 = .error e ↔
      ∃ before token after fault, value.splitOn ',' = before ++ token :: after ∧
        (∀ earlier ∈ before, ¬ IsRefused earlier) ∧ IsRefused token ∧ Faulty token fault ∧
          e = .literal token fault := by
  rw [parse_nil_eq_error_iff_findSome?, List.findSome?_eq_some_iff]
  constructor
  · rintro ⟨before, token, after, heq, htoken, hbefore⟩
    have hrefused : IsRefused token := by
      by_contra h
      rw [tokenError?_nil_eq_none_iff.mpr h] at htoken
      cases htoken
    obtain ⟨-, fault, hfault, rfl⟩ := tokenError?_nil_eq_some_iff.mp htoken
    exact ⟨before, token, after, fault, heq,
      fun earlier hmem => tokenError?_nil_eq_none_iff.mp (hbefore earlier hmem), hrefused, hfault,
      rfl⟩
  · rintro ⟨before, token, after, fault, heq, hbefore, hrefused, hfault, rfl⟩
    exact ⟨before, token, after, heq,
      tokenError?_nil_eq_some_iff.mpr ⟨hrefused.1, fault, hfault, rfl⟩,
      fun earlier hmem => tokenError?_nil_eq_none_iff.mpr (hbefore earlier hmem)⟩

theorem exists_parse_nil_eq_error_iff :
    (∃ e, (parse value []).1 = .error e) ↔ ∃ token ∈ value.splitOn ',', IsRefused token := by
  simp only [parse_nil_eq_error_iff_findSome?]
  rw [← Option.isSome_iff_exists, List.findSome?_isSome_iff]
  refine exists_congr fun token => and_congr_right fun _ => ?_
  rw [← not_iff_not, Bool.not_eq_true, Option.isSome_eq_false_iff, Option.isNone_iff_eq_none,
    tokenError?_nil_eq_none_iff]

theorem ofFields_ofList {entries : List (Text × Value)} (h : entries ≠ []) :
    ofFields (Dict.ofList entries) = some (Dict.ofList entries) :=
  if_neg (by simpa using mt Dict.ofList_eq_nil_iff.mp h)

/-- A value that is not empty asks for at least one entry. -/
theorem parse_of_ne_nil (h : value ≠ []) {result : Option Document} :
    (parse value []).1 = .ok result ↔
      ∃ entries, List.Forall₂ Asks (value.splitOn ',') entries ∧
        some (Dict.ofList entries) = result := by
  rw [parse_nil_eq_ok_iff, tokens_of_ne_nil h]
  refine exists_congr fun entries => and_congr_right fun hentries => ?_
  rw [ofFields_ofList]
  rintro rfl
  exact List.splitOn_ne_nil ',' value (List.forall₂_nil_right_iff.mp hentries)

/-- **What a projection without relations is.** It is absent just for the empty value. There is none
just if a token is refused, and the first such token is told. Else its keys are those that the
tokens ask for, each once in order of first appearance, with what the last token of a key asks. -/
theorem parse_plain (value : Text) :
    (parse value []).2 = [] ∧ ((parse value []).1 = .ok none ↔ value = []) ∧
      ((∃ e, (parse value []).1 = .error e) ↔ ∃ token ∈ value.splitOn ',', IsRefused token) ∧
      (∀ e, (parse value []).1 = .error e ↔
        ∃ before token after fault, value.splitOn ',' = before ++ token :: after ∧
          (∀ earlier ∈ before, ¬ IsRefused earlier) ∧ IsRefused token ∧ Faulty token fault ∧
            e = .literal token fault) ∧
      ∀ fields, (parse value []).1 = .ok (some fields) ↔
        value ≠ [] ∧ ∃ entries, List.Forall₂ Asks (value.splitOn ',') entries ∧
          Dict.keys fields = (Dict.keys entries).eraseDups ∧
            ∀ key, Dict.get? key fields = Dict.last? key entries := by
  refine ⟨parse_nil_snd value, ?_, exists_parse_nil_eq_error_iff, fun e => parse_nil_eq_error_iff,
    fun fields => ?_⟩
  · constructor
    · intro h
      by_contra hne
      obtain ⟨entries, -, hnone⟩ := (parse_of_ne_nil hne).mp h
      cases hnone
    · rintro rfl
      rfl
  · by_cases hvalue : value = []
    · subst hvalue
      simp [parse]
    · simp only [parse_of_ne_nil hvalue, Option.some.injEq, eq_comm (b := fields),
        Dict.eq_ofList_iff, ne_eq, hvalue, not_false_eq_true, true_and]

end Projection

end DocQuery
