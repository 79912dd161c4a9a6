import DocQuery.Proofs.Literal.Kind
import Mathlib.Data.List.Perm.Basic
import Mathlib.Data.List.Sort

/-!
# The grammar of pattern literals

* `Pattern.IsPiece`, `Pattern.IsSource`: a pattern is a sequence of pieces, which are characters,
  characters behind a backslash and classes in brackets.
* `Pattern.AsksFor`: the options that flags ask for.
* `Pattern.Writes`: the texts of a pattern, between slashes and with flags behind it.
* `Pattern.IsBody`, `Pattern.scan?_eq_some_iff`: what the scan takes in front of the closing slash,
  character by character; `Pattern.isSource_iff`: it is a sequence of pieces.
* `Pattern.eq_of_append_slash`: no other slash can close a pattern.
* **`Pattern.read?_eq_some_iff`**: a pattern is read just if it is written.
* **`readLiteral_eq_regex`**: a literal is a regular expression just if it writes it, in one way.
-/

namespace DocQuery

namespace Pattern

/-! ## Patterns -/

/-- The characters that do not stand for themselves, inside brackets or not. -/
def barred : Bool → Text
  | true => ['\r', '\n', ']', '\\']
  | false => ['\r', '\n', '[', '/', '\\']

/-- A character that stands for itself, or one behind a backslash. -/
inductive IsItem (inClass : Bool) : Text → Prop
  | plain {c : Char} (h : c ∉ barred inClass) : IsItem inClass [c]
  | escaped {c : Char} (h : c ≠ '\n') : IsItem inClass ['\\', c]

/-- An item, or brackets around items. -/
inductive IsPiece : Text → Prop
  | item {item : Text} (h : IsItem false item) : IsPiece item
  | brackets {items : List Text} (h : ∀ item ∈ items, IsItem true item) :
      IsPiece ('[' :: (items.flatten ++ [']']))

/-- Whether a text is made of one or more pieces. -/
def IsSource (source : Text) : Prop :=
  ∃ pieces : List Text, pieces ≠ [] ∧ (∀ piece ∈ pieces, IsPiece piece) ∧ pieces.flatten = source

/-- Flags are distinct letters, and their options are those but `g` in ascending order. -/
structure AsksFor (flags options : Text) : Prop where
  nodup : flags.Nodup
  letters : ∀ c ∈ flags, c ∈ ['g', 'i', 'm']
  perm : options.Perm (flags.filter (· ≠ 'g'))
  ascending : options.Pairwise (·.toNat ≤ ·.toNat)

/-- The signs of repetition, which need something in front of them. -/
def repetitions : Text := ['*', '+', '?']

/-- How a pattern is written. -/
inductive Writes : Pattern → Text → Prop
  | slashes {source flags options : Text} (hsource : IsSource source)
      (hstart : ∀ c ∈ source.head?, c ∉ repetitions) (hflags : AsksFor flags options) :
      Writes ⟨source, options⟩ ('/' :: (source ++ '/' :: flags))

/-! ## The slash that closes a pattern -/

/-- What stands in front of the closing slash, inside brackets or not. -/
inductive IsBody : Bool → Text → Prop
  | nil : IsBody false []
  | item {inClass : Bool} {item source : Text} (hitem : IsItem inClass item)
      (hsource : IsBody inClass source) : IsBody inClass (item ++ source)
  | opening {source : Text} (hsource : IsBody true source) : IsBody false ('[' :: source)
  | closing {source : Text} (hsource : IsBody false source) : IsBody true (']' :: source)

section Scan

variable {inClass : Bool} {c : Char} {source text rest : Text}

theorem scan?_cons (h : c ≠ '\\') (text : Text) :
    scan? inClass (c :: text) =
      if c = '\r' || c = '\n' then none
      else if c = '/' && !inClass then some ([], text)
      else (scan? (decide (if inClass then c ≠ ']' else c = '[')) text).map
        fun (source, rest) => (c :: source, rest) := by
  rw [scan?]
  exact h

theorem scan?_of_isBody (h : IsBody inClass source) (rest : Text) :
    scan? inClass (source ++ '/' :: rest) = some (source, rest) := by
  induction h with
  | nil => rfl
  | @item inClass _ source hitem _ ih =>
    cases hitem with
    | @plain c h =>
      cases inClass <;>
        simp only [barred, List.mem_cons, List.not_mem_nil, or_false, not_or] at h <;>
        simp [scan?_cons, h, ih]
    | @escaped c h =>
      rw [List.append_assoc]
      simp [scan?, h, ih]
  | opening _ ih => simp [scan?_cons, ih]
  | closing _ ih => simp [scan?_cons, ih]

/-- What a character leaves open is inside brackets just if it opens them or does not close them. -/
theorem IsBody.cons (hescape : c ≠ '\\') (hline : c ≠ '\r' ∧ c ≠ '\n')
    (hslash : c = '/' → inClass = true)
    (h : IsBody (decide (if inClass then c ≠ ']' else c = '[')) source) :
    IsBody inClass (c :: source) := by
  cases inClass with
  | true =>
    by_cases hclose : c = ']'
    · subst hclose
      exact .closing (by simpa using h)
    · have hitem : IsItem true [c] := .plain (by simp [barred, hline, hclose, hescape])
      exact .item hitem (by simpa [hclose] using h)
  | false =>
    by_cases hopen : c = '['
    · subst hopen
      exact .opening (by simpa using h)
    · have hplain : c ≠ '/' := fun heq => absurd (hslash heq) Bool.false_ne_true
      have hitem : IsItem false [c] := .plain (by simp [barred, hline, hopen, hplain, hescape])
      exact .item hitem (by simpa [hopen] using h)

theorem isBody_of_scan? (h : scan? inClass text = some (source, rest)) :
    IsBody inClass source ∧ text = source ++ '/' :: rest := by
  fun_induction scan? inClass text generalizing source rest with
  | case1 | case2 | case3 | case5 => cases h
  | case4 inClass c text hc ih =>
    obtain ⟨⟨source, rest⟩, hscan, heq⟩ := Option.map_eq_some_iff.mp h
    cases heq
    obtain ⟨hbody, rfl⟩ := ih hscan
    exact ⟨.item (.escaped hc) hbody, rfl⟩
  | case6 inClass c text _ _ hslash =>
    cases h
    rw [Bool.and_eq_true, decide_eq_true_eq, Bool.not_eq_true'] at hslash
    obtain ⟨rfl, rfl⟩ := hslash
    exact ⟨.nil, rfl⟩
  | case7 inClass c text hescape hline hslash inside =>
    rename_i ih
    obtain ⟨⟨source, rest⟩, hscan, heq⟩ := Option.map_eq_some_iff.mp h
    cases heq
    obtain ⟨hbody, rfl⟩ := ih hscan
    refine ⟨.cons hescape (by simpa using hline) (fun hc => ?_) hbody, rfl⟩
    simpa [hc] using hslash

/-- **The scan takes what may stand in front of the closing slash.** -/
theorem scan?_eq_some_iff :
    scan? inClass text = some (source, rest) ↔
      IsBody inClass source ∧ text = source ++ '/' :: rest := by
  refine ⟨isBody_of_scan?, ?_⟩
  rintro ⟨hbody, rfl⟩
  exact scan?_of_isBody hbody rest

end Scan

/-! ## Pieces -/

section Pieces

variable {source text : Text}

theorem IsBody.items {items : List Text} (hitems : ∀ item ∈ items, IsItem true item)
    (h : IsBody true source) : IsBody true (items.flatten ++ source) := by
  induction items with
  | nil => exact h
  | cons item items ih =>
    obtain ⟨hitem, hitems⟩ := List.forall_mem_cons.mp hitems
    rw [List.flatten_cons, List.append_assoc]
    exact .item hitem (ih hitems)

theorem IsBody.piece {piece : Text} (hpiece : IsPiece piece) (h : IsBody false source) :
    IsBody false (piece ++ source) := by
  cases hpiece with
  | item hitem => exact .item hitem h
  | @brackets items hitems =>
    rw [List.cons_append, List.append_assoc]
    exact .opening (.items hitems (.closing h))

theorem isBody_flatten {pieces : List Text} (h : ∀ piece ∈ pieces, IsPiece piece) :
    IsBody false pieces.flatten := by
  induction pieces with
  | nil => exact .nil
  | cons piece pieces ih =>
    obtain ⟨hpiece, hpieces⟩ := List.forall_mem_cons.mp h
    exact .piece hpiece (ih hpieces)

/-- What stands in front of the closing slash is a sequence of pieces, behind the rest of a class if
it begins inside brackets. -/
theorem IsBody.exists_pieces {inClass : Bool} (h : IsBody inClass source) :
    ∃ pieces : List Text, (∀ piece ∈ pieces, IsPiece piece) ∧
      if inClass then ∃ items : List Text, (∀ item ∈ items, IsItem true item) ∧
        items.flatten ++ ']' :: pieces.flatten = source
      else pieces.flatten = source := by
  induction h with
  | nil => exact ⟨[], nofun, rfl⟩
  | @item inClass item source hitem _ ih =>
    obtain ⟨pieces, hpieces, heq⟩ := ih
    cases inClass with
    | true =>
      obtain ⟨items, hitems, rfl⟩ := heq
      exact ⟨pieces, hpieces, item :: items, List.forall_mem_cons.mpr ⟨hitem, hitems⟩, by simp⟩
    | false =>
      obtain rfl : pieces.flatten = source := heq
      exact ⟨item :: pieces, List.forall_mem_cons.mpr ⟨.item hitem, hpieces⟩, rfl⟩
  | opening _ ih =>
    obtain ⟨pieces, hpieces, items, hitems, rfl⟩ := ih
    exact ⟨_ :: pieces, List.forall_mem_cons.mpr ⟨.brackets hitems, hpieces⟩, by simp⟩
  | closing _ ih =>
    obtain ⟨pieces, hpieces, heq⟩ := ih
    obtain rfl : pieces.flatten = _ := heq
    exact ⟨pieces, hpieces, [], nofun, rfl⟩

theorem IsPiece.ne_nil {piece : Text} (h : IsPiece piece) : piece ≠ [] := by
  cases h with
  | item h => cases h <;> exact List.cons_ne_nil _ _
  | brackets => exact List.cons_ne_nil _ _

theorem isSource_iff : IsSource source ↔ IsBody false source ∧ source ≠ [] := by
  constructor
  · rintro ⟨pieces, hne, hpieces, rfl⟩
    obtain ⟨piece, pieces, rfl⟩ := List.exists_cons_of_ne_nil hne
    have hpiece := (hpieces piece List.mem_cons_self).ne_nil
    exact ⟨isBody_flatten hpieces, by simp [hpiece]⟩
  · rintro ⟨hbody, hne⟩
    obtain ⟨pieces, hpieces, heq⟩ := hbody.exists_pieces
    obtain rfl : pieces.flatten = source := heq
    exact ⟨pieces, fun hnil => hne (by simp [hnil]), hpieces, rfl⟩

end Pieces

/-! ## Flags -/

section Flags

variable {flags options : Text}

theorem isFlag_iff {c : Char} : isFlag c = true ↔ c ∈ ['g', 'i', 'm'] := by
  simp [isFlag, or_assoc]

theorem ofFlags?_eq_some_iff : ofFlags? flags = some options ↔ AsksFor flags options := by
  have hall : flags.all isFlag = true ↔ ∀ c ∈ flags, c ∈ ['g', 'i', 'm'] := by
    simp only [List.all_eq_true, isFlag_iff]
  rw [ofFlags?, Option.ite_none_right_eq_some, Option.some.injEq, Bool.and_eq_true, hall,
    decide_eq_true_eq]
  constructor
  · rintro ⟨⟨hletters, hnodup⟩, rfl⟩
    exact ⟨hnodup, hletters, sortOn_perm _ _, sortOn_pairwise _ _⟩
  · rintro ⟨hnodup, hletters, hperm, hascending⟩
    refine ⟨⟨hletters, hnodup⟩, ?_⟩
    refine ((sortOn_perm _ _).trans hperm.symm).eq_of_pairwise ?_ (sortOn_pairwise _ _) hascending
    exact fun a b _ _ hab hba => Char.toNat_inj.mp (Nat.le_antisymm hab hba)

/-- Options ask for themselves. -/
theorem AsksFor.self (h : AsksFor flags options) : AsksFor options options := by
  have hkept : ∀ c ∈ options, c ≠ 'g' := fun c hc => by
    simpa using (List.mem_filter.mp (h.perm.mem_iff.mp hc)).2
  refine ⟨h.perm.nodup_iff.mpr (h.nodup.filter _), fun c hc => ?_, ?_, h.ascending⟩
  · exact h.letters c (List.mem_filter.mp (h.perm.mem_iff.mp hc)).1
  · rw [List.filter_eq_self.mpr fun c hc => by simpa using hkept c hc]

end Flags

/-! ## Literals -/

theorem startsWell_iff {source : Text} :
    startsWell source = true ↔ source ≠ [] ∧ ∀ c ∈ source.head?, c ∉ repetitions := by
  cases source with
  | nil => simp [startsWell]
  | cons c source => simp [startsWell, repetitions, and_assoc]

/-- **A pattern is read just if it is written.** -/
theorem read?_eq_some_iff {text : Text} {p : Pattern} : read? text = some p ↔ p.Writes text := by
  constructor
  · intro h
    unfold read? at h
    split at h
    · split at h
      · rename_i source flags hscan
        rw [Option.ite_none_right_eq_some] at h
        obtain ⟨hbody, rfl⟩ := scan?_eq_some_iff.mp hscan
        obtain ⟨hne, hstart⟩ := startsWell_iff.mp h.1
        obtain ⟨options, hoptions, rfl⟩ := Option.map_eq_some_iff.mp h.2
        exact .slashes (isSource_iff.mpr ⟨hbody, hne⟩) hstart (ofFlags?_eq_some_iff.mp hoptions)
      · cases h
    · cases h
  · rintro ⟨hsource, hstart, hflags⟩
    obtain ⟨hbody, hne⟩ := isSource_iff.mp hsource
    have hscan := fun flags => scan?_of_isBody hbody flags
    simp only [read?, hscan, if_pos (startsWell_iff.mpr ⟨hne, hstart⟩),
      ofFlags?_eq_some_iff.mpr hflags, Option.map_some]

/-- A pattern is written with its options as flags, too. -/
theorem Writes.options {p : Pattern} {text : Text} (h : p.Writes text) :
    p.Writes ('/' :: (p.source ++ '/' :: p.options)) := by
  cases h with
  | slashes hsource hstart hflags => exact .slashes hsource hstart hflags.self

/-- **The slash that closes a pattern is the only one that can.** -/
theorem eq_of_append_slash {source source' flags flags' : Text} (h : IsSource source)
    (h' : IsSource source') (heq : source ++ '/' :: flags = source' ++ '/' :: flags') :
    source = source' ∧ flags = flags' := by
  have hscan := scan?_of_isBody (isSource_iff.mp h).1 flags
  rw [heq, scan?_of_isBody (isSource_iff.mp h').1] at hscan
  cases hscan
  exact ⟨rfl, rfl⟩

end Pattern

theorem readLiteral_eq_regex_iff {text : Text} {p : Pattern} :
    readLiteral text = .regex p.source p.options ↔ p.Writes text := by
  have hmake : Function.Injective fun p : Pattern => Value.regex p.source p.options := by
    rintro ⟨source, options⟩ ⟨source', options'⟩ heq
    cases heq
    rfl
  rw [← Pattern.read?_eq_some_iff]
  exact readLiteral_eq_make_iff .pattern hmake rfl rfl (by decide)

/-- **Regular expressions among literals.** A literal is a regular expression just if it writes one,
with a source and flags that the text alone tells, and its options as flags write it again. -/
theorem readLiteral_eq_regex (text source options : Text) :
    (readLiteral text = .regex source options ↔ Pattern.Writes ⟨source, options⟩ text) ∧
      (∀ source flags source' flags' : Text, Pattern.IsSource source → Pattern.IsSource source' →
        '/' :: (source ++ '/' :: flags) = text → '/' :: (source' ++ '/' :: flags') = text →
          source = source' ∧ flags = flags') ∧
        (readLiteral text = .regex source options →
          readLiteral ('/' :: (source ++ '/' :: options)) = .regex source options) := by
  have hliteral : ∀ text, readLiteral text = .regex source options ↔
      Pattern.Writes ⟨source, options⟩ text :=
    fun _ => readLiteral_eq_regex_iff (p := ⟨source, options⟩)
  refine ⟨hliteral text, fun source flags source' flags' h h' heq heq' => ?_, fun h => ?_⟩
  · exact Pattern.eq_of_append_slash h h' (List.cons.inj (heq.trans heq'.symm)).2
  · exact (hliteral _).mpr ((hliteral text).mp h).options

/-- Slashes in brackets and behind a backslash do not close a pattern. -/
theorem readLiteral_eq_regex_slashes :
    Pattern.Writes ⟨"[/]\\/a".toList, "im".toList⟩ "/[/]\\/a/mgi".toList ∧
      readLiteral "/[/]\\/a/mgi".toList = .regex "[/]\\/a".toList "im".toList ∧
        readLiteral "/[/]\\/a/im".toList = .regex "[/]\\/a".toList "im".toList ∧
          Pattern.IsSource "[/]\\/a".toList ∧ ¬ Pattern.IsSource "[".toList := by
  obtain ⟨hliteral, hunique, hagain⟩ :=
    readLiteral_eq_regex "/[/]\\/a/mgi".toList "[/]\\/a".toList "im".toList
  have hwrites : Pattern.Writes ⟨"[/]\\/a".toList, "im".toList⟩ "/[/]\\/a/mgi".toList :=
    Pattern.read?_eq_some_iff.mp rfl
  have hscan : Pattern.scan? false "[/]\\/a/".toList = some ("[/]\\/a".toList, []) := rfl
  have hsource : Pattern.IsSource "[/]\\/a".toList :=
    Pattern.isSource_iff.mpr ⟨(Pattern.isBody_of_scan? hscan).1, by decide⟩
  refine ⟨hwrites, hliteral.mpr hwrites, hagain (hliteral.mpr hwrites), hsource, fun hopen => ?_⟩
  -- the text would be split at its second slash as well
  have hsplit := hunique "[".toList "]\\/a/mgi".toList _ "mgi".toList hopen hsource rfl rfl
  exact absurd hsplit.1 (by decide)

end DocQuery
