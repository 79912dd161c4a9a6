import DocQuery.Proofs.Literal.Word
import DocQuery.Proofs.Number.Decimal
import DocQuery.Proofs.Text.Split

/-!
# Rules claim different texts

The characters of a text tell which rule can claim it. Only integers and floating-point numbers
have texts in common, so that no other two rules need an order.

* `LiteralKind`, `literalKind`: what a text can write, told by its characters.
* `Rule.kind`, **`literalKind_of_read?`**: a rule claims texts of its own kind only.
* `readLiteral_of_read?`, `readLiteral_eq_iff`: the value of a text that a rule claims.
* `readBy_of_perm`: rules tried in another order.
* **`read?_unambiguous`**: at most one rule claims a text, but for an integer and a floating-point
  number, and the order of the others does not matter.
-/

namespace DocQuery

/-! ## Kinds of texts -/

/-- What a text can write. -/
inductive LiteralKind where
  | pattern
  | date
  | list
  | number
  | word
deriving DecidableEq, Repr

/-- Whether a text begins with digits that have a hyphen behind them. -/
def hasYear (text : Text) : Bool :=
  !(text.takeWhile Char.isDigit).isEmpty && (text.dropWhile Char.isDigit).head? = some '-'

/-- Whether a character can stand in a number. -/
def isNumberChar (c : Char) : Bool := c.isDigit || numberMarks.contains c

/-- The kind of a text: a pattern has a slash in front, a date its year, a list a comma, and a
number has no characters but those of numbers. -/
def literalKind (text : Text) : LiteralKind :=
  if text.head? = some '/' then .pattern
  else if hasYear text then .date
  else if text.contains ',' then .list
  else if text.all isNumberChar then .number
  else .word

/-- The kind of the texts that a rule claims. -/
def Rule.kind : Rule → LiteralKind
  | integer | float => .number
  | dateTime => .date
  | wordList => .list
  | pattern => .pattern
  | word => .word

theorem hasYear_iff {text : Text} :
    hasYear text = true ↔
      ∃ year rest, text = year ++ '-' :: rest ∧ year ≠ [] ∧ ∀ c ∈ year, c.isDigit = true := by
  rw [hasYear, Bool.and_eq_true, Bool.not_eq_true', List.isEmpty_eq_false_iff, decide_eq_true_eq]
  constructor
  · rintro ⟨hyear, hhyphen⟩
    obtain ⟨rest, hrest⟩ := List.head?_eq_some_iff.mp hhyphen
    refine ⟨text.takeWhile Char.isDigit, rest, ?_, hyear, fun c hc => List.mem_takeWhile_imp hc⟩
    rw [← hrest, List.takeWhile_append_dropWhile]
  · rintro ⟨year, rest, rfl, hyear, hdigits⟩
    rw [List.takeWhile_append_of_pos hdigits, List.dropWhile_append_of_pos hdigits]
    exact ⟨by simpa using fun h => absurd h hyear, rfl⟩

/-! ## Numbers -/

section Number

variable {text : Text}

theorem splitSign_of_hasYear (h : hasYear text = true) : splitSign text = (false, text) := by
  obtain ⟨year, rest, rfl, hyear, hdigits⟩ := hasYear_iff.mp h
  obtain ⟨c, year, rfl⟩ := List.exists_cons_of_ne_nil hyear
  exact splitSign_of_isDigit (hdigits c List.mem_cons_self) _

/-- An integer has no hyphen but in front. -/
theorem integer?_of_hasYear (h : hasYear text = true) : integer? text = none := by
  obtain ⟨year, rest, heq, -⟩ := hasYear_iff.mp h
  rw [integer?, splitSign_of_hasYear h, natural?_eq_none (c := '-') (by decide) (by simp [heq])]
  rfl

/-- What follows the digits of a decimal number is a point or an exponent. -/
theorem Decimal.ofText?_of_hasYear (h : hasYear text = true) : ofText? text = none := by
  obtain ⟨year, rest, rfl, -, hdigits⟩ := hasYear_iff.mp h
  have hspan : (year ++ '-' :: rest).span Char.isDigit = (year, '-' :: rest) := by
    rw [List.span_eq_takeWhile_dropWhile, List.takeWhile_append_of_pos hdigits,
      List.dropWhile_append_of_pos hdigits]
    simp
  have hread : read? (year ++ '-' :: rest) = some (⟨year, none, none⟩, '-' :: rest) := by
    rw [read?, hspan]
    rfl
  rw [ofText?, hread]

theorem isNumberChar_eq_false {c : Char} (h : isNumberChar c = false) :
    c.isDigit = false ∧ c ∉ numberMarks := by
  rw [isNumberChar, Bool.or_eq_false_iff] at h
  exact ⟨h.1, by simpa using h.2⟩

/-- **A number** has the characters of numbers only, and no year in front. -/
theorem isNumber_of_read? {rule : Rule} {v : Value} (h : rule.read? text = some v)
    (hrule : rule.kind = .number) : text.all isNumberChar = true ∧ hasYear text = false := by
  have hreads : (integer? text).isSome ∨ (Decimal.ofText? (splitSign text).2).isSome := by
    cases rule with
    | integer =>
      obtain ⟨n, hn, -⟩ := Option.map_eq_some_iff.mp h
      obtain ⟨m, hm, -⟩ := Option.bind_eq_some_iff.mp hn
      simp [hm]
    | float =>
      obtain ⟨x, hx, -⟩ := Option.map_eq_some_iff.mp h
      unfold Rule.readFloat? at hx
      simp only at hx
      split at hx
      · rename_i d hd
        simp [hd]
      · cases hx
    | dateTime | wordList | pattern | word => cases hrule
  constructor
  · rw [List.all_eq_true]
    intro c hc
    by_contra hother
    obtain ⟨hdigit, hmark⟩ := isNumberChar_eq_false (Bool.not_eq_true _ ▸ hother)
    rw [integer?_eq_none hdigit hmark hc,
      Decimal.ofText?_eq_none hdigit hmark (mem_splitSign hmark hc)] at hreads
    simp at hreads
  · rw [← Bool.not_eq_true]
    intro hyear
    rw [integer?_of_hasYear hyear, splitSign_of_hasYear hyear,
      Decimal.ofText?_of_hasYear hyear] at hreads
    simp at hreads

end Number

/-! ## Words -/

/-- The words that have a meaning. -/
def wordNames : List Text := ["true".toList, "false".toList, "null".toList, "none".toList]

theorem lower_mem_of_readWord? {text : Text} {v : Value} (h : Rule.readWord? text = some v) :
    text.lower ∈ wordNames := by
  unfold Rule.readWord? at h
  simp only at h
  split at h
  · rename_i htrue
    exact htrue ▸ by decide
  · split at h
    · rename_i hfalse
      exact hfalse ▸ by decide
    · split at h
      · rename_i hnull
        rw [Bool.or_eq_true, decide_eq_true_eq, decide_eq_true_eq] at hnull
        rcases hnull with hnull | hnone
        · exact hnull ▸ by decide
        · exact hnone ▸ by decide
      · cases h

theorem isUpper_of_isDigit {c : Char} (h : c.isDigit = true) : c.isUpper = false := by
  have hle : c.val.toNat ≤ 57 := by
    simp only [Char.isDigit, Bool.and_eq_true, decide_eq_true_eq, UInt32.le_iff_toNat_le] at h
    exact h.2
  refine decide_eq_false fun hupper => ?_
  have hge : 65 ≤ c.val.toNat := UInt32.le_iff_toNat_le.mp hupper.1
  omega

theorem toLower_of_isUpper_eq_false {c : Char} (h : c.isUpper = false) : c.toLower = c :=
  dif_neg (of_decide_eq_false h)

/-- The letters of words are lower-case letters in either case. -/
theorem toLower_mem_of_mem {text : Text} (h : text.lower ∈ wordNames) {c : Char} (hc : c ∈ text) :
    c.toLower ∈ wordNames.flatten :=
  List.mem_flatten.mpr ⟨text.lower, h, List.mem_map_of_mem hc⟩

/-- The first letter of a word is in no number. -/
theorem not_all_isNumberChar {text : Text} (h : text.lower ∈ wordNames) :
    ¬ text.all isNumberChar = true := by
  intro hall
  obtain ⟨c, rest, rfl⟩ : ∃ c rest, text = c :: rest :=
    List.exists_cons_of_ne_nil fun hnil => absurd (hnil ▸ h) (by decide)
  have hfirst : c.toLower ∈ "tfn".toList := by
    have hmem : some c.toLower ∈ wordNames.map List.head? := List.mem_map_of_mem (f := List.head?) h
    revert hmem
    simp +decide [wordNames]
  have hc : isNumberChar c = true := List.all_eq_true.mp hall c List.mem_cons_self
  rw [isNumberChar, Bool.or_eq_true, List.contains_iff_mem] at hc
  rcases hc with hdigit | hmark
  · have hlower : c.toLower = c := toLower_of_isUpper_eq_false (isUpper_of_isDigit hdigit)
    have hnone : "tfn".toList.filter Char.isDigit = [] := by decide
    exact List.filter_eq_nil_iff.mp hnone c (hlower ▸ hfirst) hdigit
  · have hnone : numberMarks.filter (fun c => "tfn".toList.contains c.toLower) = [] := by decide
    exact List.filter_eq_nil_iff.mp hnone c hmark (by simpa using hfirst)

/-! ## The kind that a rule claims -/

/-- **A rule claims texts of its own kind only.** -/
theorem literalKind_of_read? {rule : Rule} {text : Text} {v : Value}
    (h : rule.read? text = some v) : literalKind text = rule.kind := by
  cases rule with
  | integer | float =>
    obtain ⟨hchars, hyear⟩ := isNumber_of_read? h rfl
    have hnumber : ∀ c, isNumberChar c = false → c ∉ text := fun c hc hmem =>
      absurd (List.all_eq_true.mp hchars c hmem) (by simp [hc])
    have hslash : text.head? ≠ some '/' := fun hhead =>
      hnumber '/' (by decide) (List.mem_of_head? hhead)
    have hcomma : ',' ∉ text := hnumber ',' (by decide)
    simp [literalKind, hslash, hyear, hcomma, hchars, Rule.kind]
  | dateTime =>
    obtain ⟨millis, hmillis, -⟩ := Option.map_eq_some_iff.mp h
    have hyear := hasYear_iff.mpr (exists_year_of_readDateTime? hmillis)
    have hslash : text.head? ≠ some '/' := by
      obtain ⟨year, rest, rfl, hne, hdigits⟩ := exists_year_of_readDateTime? hmillis
      obtain ⟨c, year, rfl⟩ := List.exists_cons_of_ne_nil hne
      intro hhead
      cases hhead
      exact absurd (hdigits '/' List.mem_cons_self) (by decide)
    simp [literalKind, hslash, hyear, Rule.kind]
  | wordList =>
    obtain ⟨words, hwords, -⟩ := Option.map_eq_some_iff.mp h
    obtain ⟨hsplit, -, hword⟩ := readWords?_eq_some.mp hwords
    have hother : ∀ c, c ≠ ',' → isWord c = false → c ∉ text := fun c hne hc hmem => by
      obtain ⟨piece, hpiece, hmem⟩ := Text.exists_piece_of_mem hmem hne
      exact not_mem_of_isWordText (hword piece (hsplit ▸ hpiece)) hc hmem
    have hslash : text.head? ≠ some '/' := fun hhead =>
      hother '/' (by decide) (by decide +kernel) (List.mem_of_head? hhead)
    have hyear : ¬ hasYear text = true := fun hyear => by
      obtain ⟨year, rest, rfl, -⟩ := hasYear_iff.mp hyear
      exact hother '-' (by decide) (by decide +kernel) (by simp)
    simp [literalKind, hslash, hyear, comma_mem_of_readWords? hwords, Rule.kind]
  | pattern =>
    obtain ⟨p, hp, -⟩ := Option.map_eq_some_iff.mp h
    simp [literalKind, head?_of_read? hp, Rule.kind]
  | word =>
    have hlower := lower_mem_of_readWord? h
    have hletter : ∀ c ∈ text, c.toLower ∈ wordNames.flatten := fun c => toLower_mem_of_mem hlower
    have hslash : text.head? ≠ some '/' := fun hhead =>
      absurd (hletter '/' (List.mem_of_head? hhead)) (by decide)
    have hyear : ¬ hasYear text = true := fun hyear => by
      obtain ⟨year, rest, rfl, -⟩ := hasYear_iff.mp hyear
      exact absurd (hletter '-' (by simp)) (by decide)
    have hcomma : ',' ∉ text := fun hmem => absurd (hletter ',' hmem) (by decide)
    have hnumber : ¬ text.all isNumberChar = true := not_all_isNumberChar hlower
    simp [literalKind, hslash, hyear, hcomma, hnumber, Rule.kind]

/-! ## The order of the rules -/

namespace Rule

variable {text : Text}

/-- Two rules that claim the same text are one, or they are those for numbers. -/
theorem eq_or_number_of_read? {r s : Rule} {v w : Value} (hr : r.read? text = some v)
    (hs : s.read? text = some w) :
    r = s ∨ r = .integer ∧ s = .float ∨ r = .float ∧ s = .integer := by
  have hkind : r.kind = s.kind := (literalKind_of_read? hr).symm.trans (literalKind_of_read? hs)
  revert r s
  rintro (_ | _ | _ | _ | _ | _) (_ | _ | _ | _ | _ | _) - - hkind <;> revert hkind <;> decide

/-- Where integers come before floating-point numbers, the latter are not tried on an integer. -/
theorem ne_float_of_first {rules front back : List Rule} {rule : Rule} (hrules : rules.Nodup)
    (horder : [integer, float].Sublist rules) (heq : rules = front ++ rule :: back)
    (hfront : integer ∉ front) : rule ≠ .float := by
  rintro rfl
  subst heq
  obtain ⟨first, second, heq, hfirst, hsecond⟩ := List.sublist_append_iff.mp horder
  cases first with
  | nil =>
    obtain rfl : [integer, float] = second := heq
    have hback : float ∈ back := by
      cases hsecond with
      | cons _ h => exact h.subset (by decide)
    exact (List.nodup_cons.mp (List.nodup_append.mp hrules).2.1).1 hback
  | cons a first =>
    obtain ⟨rfl, -⟩ := List.cons.inj heq
    exact hfront (hfirst.subset List.mem_cons_self)

/-- The value of a text by the first rule that claims it, in any order that has integers before
floating-point numbers. -/
theorem findSome?_of_perm {rules : List Rule} (hperm : rules.Perm all)
    (horder : [integer, float].Sublist rules) {v : Value}
    (h : rules.findSome? (·.read? text) = some v) : all.findSome? (·.read? text) = some v := by
  obtain ⟨front, r, back, heq, hr, hfront⟩ := List.findSome?_eq_some_iff.mp h
  have hsome : (all.findSome? (·.read? text)).isSome :=
    List.findSome?_isSome_iff.mpr ⟨r, hperm.mem_iff.mp (by simp [heq]), by simp [hr]⟩
  obtain ⟨w, hw⟩ := Option.isSome_iff_exists.mp hsome
  obtain ⟨front', s, back', heq', hs, hfront'⟩ := List.findSome?_eq_some_iff.mp hw
  have hinteger : ∀ {x : Value} {l : List Rule}, integer.read? text = some x →
      (∀ a ∈ l, a.read? text = none) → integer ∉ l := fun hx hl hmem => by
    rw [hl _ hmem] at hx
    cases hx
  rw [hw, ← hr, ← hs]
  rcases eq_or_number_of_read? hr hs with rfl | ⟨rfl, rfl⟩ | ⟨rfl, rfl⟩
  · rfl
  · exact absurd rfl (ne_float_of_first (by decide) (by decide) heq' (hinteger hr hfront'))
  · exact absurd rfl (ne_float_of_first (hperm.nodup_iff.mpr (by decide)) horder heq
      (hinteger hs hfront))

end Rule

/-- **A text has the value that a rule reads from it**, unless it is a floating-point number that is an
integer as well. -/
theorem readLiteral_of_read? {rule : Rule} {text : Text} {v : Value} (h : rule.read? text = some v)
    (hinteger : rule = .float → Rule.integer.read? text = none) : readLiteral text = v := by
  have hsome : (Rule.all.findSome? (·.read? text)).isSome :=
    List.findSome?_isSome_iff.mpr ⟨rule, by cases rule <;> decide, by simp [h]⟩
  obtain ⟨w, hw⟩ := Option.isSome_iff_exists.mp hsome
  obtain ⟨front, first, back, heq, hfirst, hfront⟩ := List.findSome?_eq_some_iff.mp hw
  have hsame : first = rule := by
    rcases Rule.eq_or_number_of_read? hfirst h with rfl | ⟨rfl, rfl⟩ | ⟨rfl, rfl⟩
    · rfl
    · rw [hinteger rfl] at hfirst
      cases hfirst
    · refine absurd rfl (Rule.ne_float_of_first (by decide) (by decide) heq fun hmem => ?_)
      rw [hfront _ hmem] at h
      cases h
  rw [hsame, h] at hfirst
  rw [readLiteral, readBy, hw, ← hfirst]
  rfl

/-- A text has a value of a kind just if the rule for that kind reads it. -/
theorem readLiteral_eq_iff (rule : Rule) {text : Text} {v : Value} (hv : v.rule? = some rule)
    (hrule : rule ≠ .float) : readLiteral text = v ↔ rule.read? text = some v :=
  ⟨fun h => read?_of_readLiteral h hv, fun h =>
    readLiteral_of_read? h fun hfloat => absurd hfloat hrule⟩

/-- A text has the value that is made from what the reader of its kind gives. -/
theorem readLiteral_eq_make_iff (rule : Rule) {α : Type} {make : α → Value} {text : Text}
    {x : Option α} {a : α} (hmake : Function.Injective make) (hread : rule.read? text = x.map make)
    (hkind : (make a).rule? = some rule) (hrule : rule ≠ .float) :
    readLiteral text = make a ↔ x = some a := by
  rw [readLiteral_eq_iff rule hkind hrule, hread, ← Option.map_some,
    (Option.map_injective hmake).eq_iff]

/-- **The value of a literal does not depend on the order of the rules**, if only integers come
before floating-point numbers. -/
theorem readBy_of_perm {rules : List Rule} (hperm : rules.Perm Rule.all)
    (horder : [Rule.integer, .float].Sublist rules) (text : Text) :
    readBy rules text = readLiteral text := by
  rw [readLiteral, readBy, readBy]
  cases hread : rules.findSome? (·.read? text) with
  | none =>
    have hnone : Rule.all.findSome? (·.read? text) = none :=
      List.findSome?_eq_none_iff.mpr fun rule hrule =>
        List.findSome?_eq_none_iff.mp hread rule (hperm.mem_iff.mpr hrule)
    rw [hnone]
  | some v => rw [Rule.findSome?_of_perm hperm horder hread]

/-- **Rules are unambiguous.** Of two rules that claim the same text one reads integers and the
other one floating-point numbers, so that they are the only two whose order matters. -/
theorem read?_unambiguous (text : Text) :
    (∀ r s : Rule, r ≠ s → (r.read? text).isSome → (s.read? text).isSome →
        r = .integer ∧ s = .float ∨ r = .float ∧ s = .integer) ∧
      ∀ rules : List Rule, rules.Perm Rule.all → [Rule.integer, .float].Sublist rules →
        readBy rules text = readLiteral text := by
  refine ⟨fun r s hne hr hs => ?_, fun rules hperm horder => readBy_of_perm hperm horder text⟩
  obtain ⟨v, hv⟩ := Option.isSome_iff_exists.mp hr
  obtain ⟨w, hw⟩ := Option.isSome_iff_exists.mp hs
  exact (Rule.eq_or_number_of_read? hv hw).resolve_left hne

/-- `5` is an integer and a floating-point number, and is read as an integer in another order. -/
theorem read?_unambiguous_five :
    (Rule.integer ≠ .float ∧ (Rule.integer.read? ['5']).isSome ∧
      (Rule.float.read? ['5']).isSome ∧
        (Rule.integer = .integer ∧ Rule.float = .float ∨
          Rule.integer = .float ∧ Rule.float = .integer)) ∧
      [Rule.word, .pattern, .integer, .dateTime, .float, .wordList].Perm Rule.all ∧
        [Rule.integer, .float].Sublist [.word, .pattern, .integer, .dateTime, .float, .wordList] ∧
          readBy [.word, .pattern, .integer, .dateTime, .float, .wordList] ['5'] =
            readLiteral ['5'] := by
  have hinteger : (Rule.integer.read? ['5']).isSome := by rfl
  have hfloat : (Rule.float.read? ['5']).isSome := by rfl
  obtain ⟨hrules, horders⟩ := read?_unambiguous ['5']
  exact ⟨⟨by decide, hinteger, hfloat, hrules _ _ (by decide) hinteger hfloat⟩, by decide,
    by decide, horders _ (by decide) (by decide)⟩

end DocQuery
