import DocQuery.Filter.Fragment
import DocQuery.Proofs.Argument.Precedence
import DocQuery.Proofs.Literal.Refusal

/-!
# The grammar of filter arguments

An argument without the characters of comparisons names a field. Any other one has a field and the
text of a value on the two sides of the only token of its comparison, or it is ambiguous.

* `Fragment.Asks`: what an argument asks for that has a field, a comparison and the text of a value.
* `Fragment.asks_of_resolve?`, `Fragment.parse_of_has`: an argument whose token occurs once, and one
  whose token occurs again.
* **`Fragment.parse_grammar`**: every argument is read by this grammar, and one that is written by it
  is read as it was written.
* **`Fragment.parse_absence`**: the arguments that ask for the absence of a field.
* `Fragment.not_absence_exact`: two arguments that ask for the absence of one field.
-/

namespace DocQuery

/-- A comparison separates a text in one way only, and the tokens that are looked for before it
stand on neither side. -/
structure Comparison.Separates (comparison : Comparison) (argument field raw : Text) : Prop where
  eq_iff : ∀ before after, argument = before ++ comparison.token ++ after ↔
    before = field ∧ after = raw
  none_earlier : ∀ c : Comparison, c.Precedes comparison →
    ¬ c.token <:+: field ∧ ¬ c.token <:+: raw

namespace Fragment

open Outcome

/-! ## What a comparison asks for -/

/-- What an argument asks for that has a field, a comparison and the text of a value. -/
inductive Asks (casters : CasterTable) (field raw : Text) :
    Comparison → Except QueryError Fragment → Prop
  /-- What stands behind an exclamation mark is a field that must not be there. -/
  | absent : Asks casters field raw .absent
      (.ok ⟨raw, .operators [("$exists".toList, .bool false)]⟩)
  | refused {comparison : Comparison} {e : QueryError} (hne : comparison ≠ .absent)
      (hcast : casters.cast raw = .error e) : Asks casters field raw comparison (.error e)
  | among {items : List Value} (hcast : casters.cast raw = .ok (.array items)) :
      Asks casters field raw .equals (.ok ⟨field, .operators [("$in".toList, .array items)]⟩)
  | notAmong {items : List Value} (hcast : casters.cast raw = .ok (.array items)) :
      Asks casters field raw .differs (.ok ⟨field, .operators [("$nin".toList, .array items)]⟩)
  | noList {comparison : Comparison} {items : List Value} (hne : comparison ≠ .absent)
      (hcast : casters.cast raw = .ok (.array items)) (hequals : comparison ≠ .equals)
      (hdiffers : comparison ≠ .differs) :
      Asks casters field raw comparison (.error (.listComparison field comparison))
  | equal {v : Value} (hcast : casters.cast raw = .ok v) (hv : ∀ items, v ≠ .array items) :
      Asks casters field raw .equals (.ok ⟨field, .equals v⟩)
  | operator {comparison : Comparison} {v : Value} (hne : comparison ≠ .absent)
      (hcast : casters.cast raw = .ok v) (hv : ∀ items, v ≠ .array items)
      (hequals : comparison ≠ .equals) :
      Asks casters field raw comparison (.ok ⟨field, .operators [(comparison.keyword, v)]⟩)

variable {casters : CasterTable} {argument field raw : Text} {comparison : Comparison}

theorem compare_of_ne_array {v : Value} (hv : ∀ items, v ≠ .array items) (field : Text)
    (comparison : Comparison) :
    compare field comparison v =
      .ok (if comparison = .equals then .equals v else .operator comparison.keyword v) := by
  cases v with
  | array items => exact absurd rfl (hv items)
  | _ => cases comparison <;> rfl

/-- The cast of a value, compared with the field, is what the comparison asks for. -/
theorem asks_compare (hne : comparison ≠ .absent) :
    Asks casters field raw comparison
      (casters.cast raw >>= fun v => compare field comparison v >>= fun condition =>
        .ok ⟨field, condition⟩) := by
  cases hcast : casters.cast raw with
  | error e => exact .refused hne hcast
  | ok v =>
    change Asks casters field raw comparison (compare field comparison v >>= _)
    by_cases hv : ∀ items, v ≠ .array items
    · rw [compare_of_ne_array hv]
      by_cases hequals : comparison = .equals
      · subst hequals
        exact .equal hcast hv
      · rw [if_neg hequals]
        exact .operator hne hcast hv hequals
    · push Not at hv
      obtain ⟨items, rfl⟩ := hv
      cases comparison with
      | equals => exact .among hcast
      | differs => exact .notAmong hcast
      | absent => exact absurd rfl hne
      | atMost | atLeast | above | below => exact .noList hne hcast (by decide) (by decide)

/-- Nothing that is asked for is ambiguous. -/
theorem not_asks_ambiguous {argument : Text} {other : Comparison} :
    ¬ Asks casters field raw comparison (.error (.ambiguous argument other)) := by
  intro h
  cases h with
  | refused _ hcast =>
    obtain ⟨_, _, _, heq⟩ := CasterTable.cast_eq_error hcast
    cases heq

/-! ## Arguments with a comparison -/

theorem two_le_occurrences_iff
    (hcut : Text.cut? comparison.token argument = some (field, raw)) :
    2 ≤ Text.occurrences comparison.token argument ↔ Text.has comparison.token raw = true := by
  rw [Comparison.occurrences_of_cut? hcut]
  cases hhas : Text.has comparison.token raw with
  | false => simp [Text.occurrences_eq_zero hhas]
  | true =>
    have hpos := Text.occurrences_pos hhas
    simp only [iff_true]
    omega

section Resolved

variable (hresolve : Comparison.resolve? argument = some comparison)
  (hcut : Text.cut? comparison.token argument = some (field, raw))

include hresolve hcut

/-- A token that occurs again makes an argument ambiguous, whatever its value is. -/
theorem parse_of_has (hhas : Text.has comparison.token raw = true) :
    parse casters argument = .error (.ambiguous argument comparison) := by
  rw [parse, hresolve]
  simp only [hcut, hhas, if_true]

/-- With one token in it the value of an argument is cast and compared with the field. -/
theorem parse_of_not_has (hhas : Text.has comparison.token raw = false)
    (hne : comparison ≠ .absent) :
    parse casters argument = casters.cast raw >>= fun v =>
      compare field comparison v >>= fun condition => .ok ⟨field, condition⟩ := by
  rw [parse, hresolve]
  simp only [hcut, hhas, Bool.false_eq_true, if_false, if_neg hne]
  rfl

/-- With one token in it an argument asks for the comparison of its sides. -/
theorem asks_of_resolve? (hhas : Text.has comparison.token raw = false) :
    Asks casters field raw comparison (parse casters argument) := by
  by_cases hne : comparison = .absent
  · subst hne
    rw [parse, hresolve]
    simp only [hcut, hhas]
    exact .absent
  · rw [parse_of_not_has hresolve hcut hhas hne]
    exact asks_compare hne

theorem parse_eq_ambiguous_iff {other : Text} {c : Comparison} :
    parse casters argument = .error (.ambiguous other c) ↔
      other = argument ∧ c = comparison ∧ 2 ≤ Text.occurrences comparison.token argument := by
  rw [two_le_occurrences_iff hcut]
  cases hhas : Text.has comparison.token raw with
  | false =>
    have hasks : Asks casters field raw comparison (parse casters argument) :=
      asks_of_resolve? hresolve hcut hhas
    constructor
    · intro h
      rw [h] at hasks
      exact absurd hasks not_asks_ambiguous
    · rintro ⟨-, -, h⟩
      cases h
  | true =>
    rw [parse_of_has hresolve hcut hhas]
    simp [eq_comm]

/-- The only two sides of a token that occurs once. No earlier token stands in them. -/
theorem separates_of_resolve? (hhas : Text.has comparison.token raw = false) :
    comparison.Separates argument field raw := by
  constructor
  · intro before after
    constructor
    · rintro rfl
      have hone : Text.occurrences comparison.token (before ++ comparison.token ++ after) = 1 := by
        rw [Comparison.occurrences_of_cut? hcut, Text.occurrences_eq_zero hhas]
      rw [Text.cut?_of_occurrences_eq_one comparison.token_ne_nil hone] at hcut
      cases hcut
      exact ⟨rfl, rfl⟩
    · rintro ⟨rfl, rfl⟩
      exact Text.eq_of_cut? hcut
  · intro c hc
    have hnone := (Comparison.resolve?_eq_some_iff.mp hresolve).2 c hc
    obtain rfl := Text.eq_of_cut? hcut
    exact ⟨fun h => hnone (h.trans ⟨[], comparison.token ++ raw, by simp⟩),
      fun h => hnone (h.trans ⟨field ++ comparison.token, [], by simp⟩)⟩

end Resolved

theorem parse_of_hasNoComparison (h : HasNoComparison argument) (casters : CasterTable) :
    parse casters argument = .ok (present argument true) := by
  rw [parse, Comparison.resolve?_eq_none_iff.mpr h]

/-- Where an argument makes a comparison, it is cut at the token. -/
theorem exists_cut?_of_resolve? (h : Comparison.resolve? argument = some comparison) :
    ∃ field raw, Text.cut? comparison.token argument = some (field, raw) := by
  have hhas := Comparison.has_token_iff.mpr (Comparison.resolve?_eq_some_iff.mp h).1
  obtain ⟨⟨field, raw⟩, hcut⟩ := Option.isSome_iff_exists.mp hhas
  exact ⟨field, raw, hcut⟩

/-- **The grammar of arguments.** An argument without the characters of comparisons asks that a
field is there. One whose token occurs twice is ambiguous, whatever its value is, and any other one
asks for the comparison of its two sides. A comparison that is written between a field and a value
is read as it was written. -/
theorem parse_grammar (casters : CasterTable) :
    (∀ argument : Text,
      (Comparison.resolve? argument = none ↔ HasNoComparison argument) ∧
        (HasNoComparison argument → parse casters argument =
          .ok ⟨argument, .operators [("$exists".toList, .bool true)]⟩) ∧
          ∀ comparison : Comparison, Comparison.resolve? argument = some comparison →
            (∀ other c, parse casters argument = .error (.ambiguous other c) ↔
              other = argument ∧ c = comparison ∧
                2 ≤ Text.occurrences comparison.token argument) ∧
              (Text.occurrences comparison.token argument < 2 → ∃ field raw,
                comparison.Separates argument field raw ∧
                  Asks casters field raw comparison (parse casters argument))) ∧
      ∀ (field : Text) (comparison : Comparison) (raw : Text), HasNoComparison field →
        ¬ comparison.token <:+: raw →
          (∀ c : Comparison, c.Precedes comparison → ¬ c.token <:+: raw) →
            Comparison.resolve? (field ++ comparison.token ++ raw) = some comparison ∧
              comparison.Separates (field ++ comparison.token ++ raw) field raw ∧
                Asks casters field raw comparison
                  (parse casters (field ++ comparison.token ++ raw)) := by
  constructor
  · intro argument
    refine ⟨Comparison.resolve?_eq_none_iff, fun h => parse_of_hasNoComparison h casters,
      fun comparison hresolve => ?_⟩
    obtain ⟨field, raw, hcut⟩ := exists_cut?_of_resolve? hresolve
    refine ⟨fun other c => parse_eq_ambiguous_iff hresolve hcut, fun honce => ?_⟩
    have hhas : Text.has comparison.token raw = false := by
      rw [← Bool.not_eq_true, ← two_le_occurrences_iff hcut]
      omega
    exact ⟨field, raw, separates_of_resolve? hresolve hcut hhas,
      asks_of_resolve? hresolve hcut hhas⟩
  · intro field comparison raw hfield honce hearlier
    have hresolve := Comparison.resolve?_sides hfield hearlier
    have hcut := Comparison.cut?_sides hfield comparison raw
    have hhas := Comparison.has_token_eq_false_iff.mpr honce
    exact ⟨hresolve, separates_of_resolve? hresolve hcut hhas,
      asks_of_resolve? hresolve hcut hhas⟩

/-- A field alone, a token twice, an argument with two tokens in it and one where an equals sign
follows the token. -/
theorem parse_grammar_seams :
    parse [] "phone".toList =
        .ok ⟨"phone".toList, .operators [("$exists".toList, .bool true)]⟩ ∧
      parse [] "flag==toto".toList = .error (.ambiguous "flag==toto".toList .equals) ∧
        (∃ field raw, Comparison.equals.Separates "expr=a<b".toList field raw ∧
          Asks [] field raw .equals (parse [] "expr=a<b".toList)) ∧
          Asks [] "age".toList "=5".toList .atLeast (parse [] "age>==5".toList) := by
  obtain ⟨hreads, hwritten⟩ := parse_grammar []
  refine ⟨(hreads "phone".toList).2.1 (by decide), ?_, ?_, ?_⟩
  · exact (((hreads "flag==toto".toList).2.2 .equals (by decide)).1 _ _).mpr
      ⟨rfl, rfl, by decide⟩
  · exact ((hreads "expr=a<b".toList).2.2 .equals (by decide)).2 (by decide)
  · refine (hwritten "age".toList .atLeast "=5".toList (by decide) (by decide) ?_).2.2
    rintro (_ | _ | _ | _ | _ | _ | _) <;> decide

/-! ## Absence -/

theorem asks_absent_iff {result : Except QueryError Fragment} :
    Asks casters field raw .absent result ↔ result = .ok (present raw false) := by
  constructor
  · intro h
    cases h with
    | absent => rfl
    | refused hne | noList hne | operator hne => exact absurd rfl hne
  · rintro rfl
    exact .absent

theorem keyword_eq_of_present {key : Text} {v : Value} {b : Bool}
    (h : Except.ok (present argument b) =
      (.ok ⟨field, .operators [(key, v)]⟩ : Except QueryError Fragment)) : key = existsKeyword := by
  cases h
  rfl

/-- No other comparison is written in a filter as the absence of a field is. -/
theorem eq_absent_of_asks (h : Asks casters field raw comparison (.ok (present argument false))) :
    comparison = .absent ∧ raw = argument := by
  by_cases habsent : comparison = .absent
  · subst habsent
    rw [asks_absent_iff] at h
    cases h
    exact ⟨rfl, rfl⟩
  · generalize hresult : Except.ok (present argument false) = result at h
    cases h with
    | absent => exact absurd rfl habsent
    | operator hne =>
      have hkeyword := keyword_eq_of_present hresult
      cases comparison <;> first | exact absurd rfl hne | exact absurd hkeyword (by decide)
    | among | notAmong => exact absurd (keyword_eq_of_present hresult) (by decide)
    | refused | noList | equal => cases hresult

/-- No character of a comparison stands on the sides of the only exclamation mark. -/
theorem hasNoComparison_sides (hresolve : Comparison.resolve? argument = some .absent)
    (hcut : Text.cut? Comparison.absent.token argument = some (field, raw))
    (hhas : Text.has Comparison.absent.token raw = false) :
    argument = field ++ '!' :: raw ∧ HasNoComparison field ∧ HasNoComparison raw := by
  have hseparates := separates_of_resolve? hresolve hcut hhas
  have hlast : ∀ c : Comparison, c.Precedes .absent ∨ c = .absent := by
    rintro (_ | _ | _ | _ | _ | _ | _) <;> decide
  obtain rfl := Text.eq_of_cut? hcut
  refine ⟨by simp [Comparison.token], Comparison.hasNoComparison_of_not_isInfix fun c hinside => ?_,
    Comparison.hasNoComparison_of_not_isInfix fun c hinside => ?_⟩
  · rcases hlast c with hc | rfl
    · exact (hseparates.none_earlier c hc).1 hinside
    · -- the argument could be cut at this exclamation mark as well
      obtain ⟨before, after, rfl⟩ := hinside
      have hbefore := ((hseparates.eq_iff before
        (after ++ Comparison.absent.token ++ raw)).mp (by simp [List.append_assoc])).1
      simp [Comparison.token] at hbefore
  · rcases hlast c with hc | rfl
    · exact (hseparates.none_earlier c hc).2 hinside
    · rw [Comparison.has_token_iff.mpr hinside] at hhas
      cases hhas

/-- An argument asks for the absence of a field if the field stands behind its only comparison,
which is an exclamation mark. -/
theorem parse_eq_absent_iff :
    parse casters argument = .ok (present field false) ↔
      ∃ before, argument = before ++ '!' :: field ∧ HasNoComparison before ∧
        HasNoComparison field := by
  constructor
  · intro h
    cases hresolve : Comparison.resolve? argument with
    | none =>
      rw [parse_of_hasNoComparison (Comparison.resolve?_eq_none_iff.mp hresolve)] at h
      cases h
    | some comparison =>
      obtain ⟨before, raw, hcut⟩ := exists_cut?_of_resolve? hresolve
      cases hhas : Text.has comparison.token raw with
      | true =>
        rw [parse_of_has hresolve hcut hhas] at h
        cases h
      | false =>
        have hasks : Asks casters before raw comparison (parse casters argument) :=
          asks_of_resolve? hresolve hcut hhas
        rw [h] at hasks
        obtain ⟨rfl, rfl⟩ := eq_absent_of_asks hasks
        exact ⟨before, hasNoComparison_sides hresolve hcut hhas⟩
  · rintro ⟨before, rfl, hbefore, hfield⟩
    have hresolve := Comparison.resolve?_of_hasNoComparison hbefore hfield .absent
    have hcut := Comparison.cut?_sides hbefore .absent field
    have hhas := Comparison.has_token_eq_false_iff.mpr
      (Comparison.not_infix_of_hasNoComparison hfield .absent)
    rw [List.append_assoc] at hresolve hcut
    exact asks_absent_iff.mp (asks_of_resolve? hresolve hcut hhas)

/-- Nothing stands in front of the only comparison of an argument that begins with it. -/
theorem eq_cons_of_head? {before : Text} (hbefore : HasNoComparison before)
    (h : (before ++ '!' :: field).head? = some '!') : before ++ '!' :: field = '!' :: field := by
  cases before with
  | nil => rfl
  | cons c before =>
    cases h
    exact absurd (by decide) (hbefore '!' List.mem_cons_self)

/-- **The arguments that ask for the absence of a field** have it behind an exclamation mark, which
is the only character of a comparison in them. What stands in front of the mark has no part in it.
Where nothing does, the argument is the mark and the field, and no two of these ask for the same. -/
theorem parse_absence (casters : CasterTable) (argument field : Text) :
    (parse casters argument = .ok (present field false) ↔
      ∃ before, argument = before ++ '!' :: field ∧ HasNoComparison before ∧
        HasNoComparison field) ∧
      (argument.head? = some '!' → parse casters argument = .ok (present field false) →
        argument = '!' :: field ∧ ∀ other : Text, other.head? = some '!' →
          parse casters other = .ok (present field false) → other = argument) := by
  have hmark : ∀ written : Text, written.head? = some '!' →
      parse casters written = .ok (present field false) → written = '!' :: field := by
    intro written hhead h
    obtain ⟨before, rfl, hbefore, -⟩ := parse_eq_absent_iff.mp h
    exact eq_cons_of_head? hbefore hhead
  refine ⟨parse_eq_absent_iff, fun hhead h => ?_⟩
  have hargument := hmark argument hhead h
  exact ⟨hargument, fun other hother h => (hmark other hother h).trans hargument.symm⟩

theorem parse_absence_phone :
    ("!phone".toList.head? = some '!' ∧
      parse [] "!phone".toList = .ok (present "phone".toList false)) ∧
      ∀ other : Text, other.head? = some '!' →
        parse [] other = .ok (present "phone".toList false) → other = "!phone".toList := by
  obtain ⟨habsent, honly⟩ := parse_absence [] "!phone".toList "phone".toList
  have hparse := habsent.mpr ⟨[], rfl, by decide, by decide⟩
  exact ⟨⟨rfl, hparse⟩, (honly rfl hparse).2⟩

/-- What stands in front of an exclamation mark is left out, so that two arguments ask for the
absence of one field. -/
theorem not_absence_exact :
    parse [] "a!b".toList = .ok (present "b".toList false) ∧
      parse [] "!b".toList = .ok (present "b".toList false) ∧
        (¬ ∀ (casters : CasterTable) (argument field : Text),
          parse casters argument = .ok (present field false) → argument = '!' :: field) ∧
          ¬ ∀ (casters : CasterTable) (argument other field : Text),
            parse casters argument = .ok (present field false) →
              parse casters other = .ok (present field false) → argument = other := by
  have hfront : parse [] "a!b".toList = .ok (present "b".toList false) := rfl
  have hmark : parse [] "!b".toList = .ok (present "b".toList false) := rfl
  refine ⟨hfront, hmark, fun h => ?_, fun h => ?_⟩
  · exact absurd (h [] _ _ hfront) (by decide)
  · exact absurd (h [] _ _ _ hfront hmark) (by decide)

end Fragment

end DocQuery
