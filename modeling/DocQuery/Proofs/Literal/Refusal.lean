import DocQuery.Proofs.Literal.Cast
import DocQuery.Proofs.Literal.Caster

/-!
# Casters that refuse

* `CasterTable.Claims`: the caster that a text is a call of. `CasterTable.Refuses`: it refuses the
  inner text.
* `CasterTable.Gives`, **`CasterTable.castText_eq_ok_iff`**, `CasterTable.castText_eq_error_iff`: the
  value of a text, or the error of its caster.
* `CasterTable.Becomes`, `CasterTable.Settles`: what becomes of an item of a list and of a value.
* `CasterTable.FailsAt`, **`CasterTable.cast_eq_error_iff_failsAt`**: the text where a cast fails.
* **`CasterTable.cast_exact`**: the errors and the values of casts.
-/

namespace DocQuery.CasterTable

open Outcome

variable {casters : CasterTable} {text name inner cause : Text} {caster : Caster}
  {v item : Value} {e : QueryError}

/-! ## Calls -/

/-- A text is a call of a caster, and it is a call of none that is registered before. -/
structure Claims (casters : CasterTable) (text name : Text) (caster : Caster) (inner : Text) :
    Prop where
  eq_call : text = call name inner
  first : ∃ before after, casters = before ++ (name, caster) :: after ∧
    ∀ entry ∈ before, ∀ other, text ≠ call entry.1 other

/-- The caster that claims a text refuses the inner text. -/
def Refuses (casters : CasterTable) (text name inner cause : Text) : Prop :=
  ∃ caster, Claims casters text name caster inner ∧ caster inner = .error cause

/-- Some caster claims a text and refuses the inner text. -/
def IsRefused (casters : CasterTable) (text : Text) : Prop :=
  ∃ name inner cause, Refuses casters text name inner cause

theorem Refuses.eq_call (h : Refuses casters text name inner cause) : text = call name inner := by
  obtain ⟨caster, hclaims, -⟩ := h
  exact hclaims.eq_call

/-- A text without an opening parenthesis is not refused. -/
theorem not_isRefused (h : '(' ∉ text) : ¬ IsRefused casters text := by
  rintro ⟨name, inner, cause, hrefuses⟩
  rw [hrefuses.eq_call] at h
  exact h (by simp [call])

theorem inner?_eq_none_iff : inner? name text = none ↔ ∀ inner, text ≠ call name inner := by
  rw [Option.eq_none_iff_forall_ne_some]
  exact forall_congr' fun inner => not_congr inner?_eq_some_iff

theorem claim?_eq_some_iff_claims :
    claim? casters text = some (name, caster, inner) ↔ Claims casters text name caster inner := by
  simp only [claim?_eq_some_iff, inner?_eq_none_iff]
  exact ⟨fun ⟨hcall, hfirst⟩ => ⟨hcall, hfirst⟩, fun h => ⟨h.eq_call, h.first⟩⟩

theorem claim?_eq_none_iff :
    claim? casters text = none ↔ ∀ entry ∈ casters, ∀ inner, text ≠ call entry.1 inner := by
  rw [claim?, List.findSome?_eq_none_iff]
  exact forall₂_congr fun entry _ => Option.map_eq_none_iff.trans inner?_eq_none_iff

/-! ## Single texts -/

/-- The value of a text by itself: what the caster that claims it makes of the inner text, or the
literal that it writes if no caster claims it. -/
inductive Gives (casters : CasterTable) : Text → Value → Prop
  | claimed {text name inner : Text} {caster : Caster} {v : Value}
      (hclaims : Claims casters text name caster inner) (hinner : caster inner = .ok v) :
      Gives casters text v
  | literal {text : Text} (h : ∀ entry ∈ casters, ∀ inner, text ≠ call entry.1 inner) :
      Gives casters text (readLiteral text)

/-- **A text has just the value that it gives.** -/
theorem castText_eq_ok_iff : castText casters text = .ok v ↔ Gives casters text v := by
  constructor
  · intro h
    unfold castText at h
    split at h
    · rename_i hclaim
      exact .claimed (claim?_eq_some_iff_claims.mp hclaim) (mapError_eq_ok.mp h)
    · rename_i hclaim
      cases h
      exact .literal (claim?_eq_none_iff.mp hclaim)
  · rintro (⟨hclaims, hinner⟩ | h)
    · rw [castText, claim?_eq_some_iff_claims.mpr hclaims]
      exact mapError_eq_ok.mpr hinner
    · rw [castText, claim?_eq_none_iff.mpr h]

/-- **A text fails just if it is refused**, and the error tells the text, the caster and the cause. -/
theorem castText_eq_error_iff :
    castText casters text = .error e ↔
      ∃ name inner cause, Refuses casters text name inner cause ∧
        e = .casterFailed text name cause := by
  constructor
  · intro h
    unfold castText at h
    split at h
    · rename_i name caster inner hclaim
      obtain ⟨cause, hcause, rfl⟩ := mapError_eq_error.mp h
      exact ⟨name, inner, cause, ⟨caster, claim?_eq_some_iff_claims.mp hclaim, hcause⟩, rfl⟩
    · cases h
  · rintro ⟨name, inner, cause, ⟨caster, hclaims, hcause⟩, rfl⟩
    rw [castText, claim?_eq_some_iff_claims.mpr hclaims]
    exact mapError_eq_error.mpr ⟨cause, hcause, rfl⟩

theorem isRefused_iff : IsRefused casters text ↔ ∃ e, castText casters text = .error e := by
  simp only [castText_eq_error_iff]
  constructor
  · rintro ⟨name, inner, cause, h⟩
    exact ⟨_, name, inner, cause, h, rfl⟩
  · rintro ⟨-, name, inner, cause, h, -⟩
    exact ⟨name, inner, cause, h⟩

/-! ## Items of lists -/

/-- What becomes of an item of a list: a string has the value that it gives by itself, and anything
else stays. -/
inductive Becomes (casters : CasterTable) : Value → Value → Prop
  | string {text : Text} {v : Value} (h : Gives casters text v) : Becomes casters (.string text) v
  | other {v : Value} (h : ∀ text, v ≠ .string text) : Becomes casters v v

theorem castItem_eq_ok_iff : castItem casters item = .ok v ↔ Becomes casters item v := by
  constructor
  · intro h
    unfold castItem at h
    split at h
    · exact .string (castText_eq_ok_iff.mp h)
    · rename_i hstring
      cases h
      exact .other hstring
  · rintro (h | hstring)
    · exact castText_eq_ok_iff.mpr h
    · cases v with
      | string text => exact absurd rfl (hstring text)
      | _ => rfl

theorem castItem_eq_error_iff :
    castItem casters item = .error e ↔
      ∃ text, item = .string text ∧ castText casters text = .error e := by
  constructor
  · intro h
    unfold castItem at h
    split at h
    · exact ⟨_, rfl, h⟩
    · cases h
  · rintro ⟨text, rfl, h⟩
    exact h

/-- The items of a list fail with the error of the first string that is refused. -/
theorem mapM_castItem_eq_error_iff {items : List Value} :
    items.mapM (castItem casters) = .error e ↔
      ∃ before failing after, items = before ++ .string failing :: after ∧
        (∀ earlier, .string earlier ∈ before → ¬ IsRefused casters earlier) ∧
          castText casters failing = .error e := by
  have hbefore (before : List Value) :
      (∀ item ∈ before, ∀ e, castItem casters item ≠ .error e) ↔
        ∀ earlier, .string earlier ∈ before → ¬ IsRefused casters earlier := by
    simp only [isRefused_iff, not_exists]
    constructor
    · intro h earlier hmem
      exact h (.string earlier) hmem
    · intro h item hmem e he
      obtain ⟨text, rfl, he⟩ := castItem_eq_error_iff.mp he
      exact h text hmem e he
  simp only [mapM_eq_error_iff, hbefore, castItem_eq_error_iff]
  constructor
  · rintro ⟨before, -, after, rfl, hearlier, failing, rfl, he⟩
    exact ⟨before, failing, after, rfl, hearlier, he⟩
  · rintro ⟨before, failing, after, rfl, hearlier, he⟩
    exact ⟨before, _, after, rfl, hearlier, failing, rfl, he⟩

/-! ## Casts -/

/-- What a value that is given settles to: the items of a list become something each, in order, and
any other value stays. -/
inductive Settles (casters : CasterTable) : Value → Value → Prop
  | list {items results : List Value} (h : List.Forall₂ (Becomes casters) items results) :
      Settles casters (.array items) (.array results)
  | single {v : Value} (h : ∀ items, v ≠ .array items) : Settles casters v v

/-- Where a cast fails: at the text itself, or else at the first string of its list that is
refused. -/
inductive FailsAt (casters : CasterTable) : Text → Text → Prop
  | text {text : Text} (h : IsRefused casters text) : FailsAt casters text text
  | item {text failing : Text} {before after : List Value}
      (hgives : Gives casters text (.array (before ++ .string failing :: after)))
      (hbefore : ∀ earlier, .string earlier ∈ before → ¬ IsRefused casters earlier)
      (h : IsRefused casters failing) : FailsAt casters text failing

theorem cast_eq_ok_iff_settles :
    cast casters text = .ok v ↔ ∃ w, Gives casters text w ∧ Settles casters w v := by
  simp only [cast_eq_ok_iff, castText_eq_ok_iff, mapM_eq_ok_iff, castItem_eq_ok_iff]
  constructor
  · rintro (⟨items, results, hgives, hitems, rfl⟩ | ⟨hne, hgives⟩)
    · exact ⟨_, hgives, .list hitems⟩
    · exact ⟨v, hgives, .single hne⟩
  · rintro ⟨w, hgives, hsettles⟩
    cases hsettles with
    | list hitems => exact .inl ⟨_, _, hgives, hitems, rfl⟩
    | single hne => exact .inr ⟨hne, hgives⟩

/-- **A cast fails with the error of the text where it fails.** -/
theorem cast_eq_error_iff_failsAt :
    cast casters text = .error e ↔
      ∃ failing, FailsAt casters text failing ∧ castText casters failing = .error e := by
  simp only [cast_eq_error_iff, castText_eq_ok_iff, mapM_castItem_eq_error_iff]
  constructor
  · rintro (he | ⟨-, hgives, before, failing, after, rfl, hbefore, he⟩)
    · exact ⟨text, .text (isRefused_iff.mpr ⟨e, he⟩), he⟩
    · exact ⟨failing, .item hgives hbefore (isRefused_iff.mpr ⟨e, he⟩), he⟩
  · rintro ⟨failing, hfails, he⟩
    cases hfails with
    | text => exact .inl he
    | item hgives hbefore => exact .inr ⟨_, hgives, _, failing, _, rfl, hbefore, he⟩

/-- Only a caster can fail. -/
theorem cast_eq_error (h : cast casters text = .error e) :
    ∃ value name cause, e = .casterFailed value name cause := by
  obtain ⟨failing, -, he⟩ := cast_eq_error_iff_failsAt.mp h
  obtain ⟨name, -, cause, -, rfl⟩ := castText_eq_error_iff.mp he
  exact ⟨failing, name, cause, rfl⟩

theorem exists_cast_eq_error_iff :
    (∃ e, cast casters text = .error e) ↔ IsRefused casters text ∨
      ∃ items failing, Gives casters text (.array items) ∧ .string failing ∈ items ∧
        IsRefused casters failing := by
  constructor
  · rintro ⟨e, he⟩
    obtain ⟨failing, hfails, -⟩ := cast_eq_error_iff_failsAt.mp he
    cases hfails with
    | text hrefused => exact .inl hrefused
    | item hgives _ hrefused =>
      exact .inr ⟨_, failing, hgives, List.mem_append_right _ List.mem_cons_self, hrefused⟩
  · rintro (hrefused | ⟨items, failing, hgives, hmem, hrefused⟩)
    · obtain ⟨e, he⟩ := isRefused_iff.mp hrefused
      exact ⟨e, cast_eq_error_iff.mpr (.inl he)⟩
    · obtain ⟨e, he⟩ := isRefused_iff.mp hrefused
      have hitem : castItem casters (.string failing) = .error e := he
      obtain ⟨e', hitems⟩ := exists_mapM_eq_error hmem hitem
      exact ⟨e', cast_eq_error_iff.mpr (.inr ⟨items, castText_eq_ok_iff.mpr hgives, hitems⟩)⟩

/-- **Casts, exactly.** A cast fails just if its text is refused or gives a list with a string that is
refused. The error tells the first text that is refused, which is a call of the caster that refuses
it, and the cause why the caster refuses the inner text. Else the items of a list keep their number
and order, strings have the values that they give by themselves, and all else stays. -/
theorem cast_exact (casters : CasterTable) (text : Text) :
    ((∃ e, cast casters text = .error e) ↔ IsRefused casters text ∨
        ∃ items failing, Gives casters text (.array items) ∧ .string failing ∈ items ∧
          IsRefused casters failing) ∧
      (∀ e, cast casters text = .error e ↔
        ∃ failing name inner cause, FailsAt casters text failing ∧
          Refuses casters failing name inner cause ∧ failing = call name inner ∧
            e = .casterFailed failing name cause) ∧
        ∀ v, cast casters text = .ok v ↔ ∃ w, Gives casters text w ∧ Settles casters w v := by
  refine ⟨exists_cast_eq_error_iff, fun e => ?_, fun v => cast_eq_ok_iff_settles⟩
  simp only [cast_eq_error_iff_failsAt, castText_eq_error_iff]
  constructor
  · rintro ⟨failing, hfails, name, inner, cause, hrefuses, rfl⟩
    exact ⟨failing, name, inner, cause, hfails, hrefuses, hrefuses.eq_call, rfl⟩
  · rintro ⟨failing, name, inner, cause, hfails, hrefuses, -, rfl⟩
    exact ⟨failing, hfails, name, inner, cause, hrefuses, rfl⟩

/-- A caster that makes a list of the pieces between semicolons. -/
def splitting : Caster := fun inner => .ok (.array ((inner.splitOn ';').map .string))

/-- A caster that makes lists, and one that refuses everything. -/
def listsAndRefusals : CasterTable := [("semi".toList, splitting), ("no".toList, refusing)]

/-- The first of two strings that are refused, in a list that a caster makes. -/
theorem cast_exact_second_item :
    cast listsAndRefusals "semi(5;no(a);no(b))".toList =
      .error (.casterFailed "no(a)".toList "no".toList ['a']) := by
  have hlist : Claims listsAndRefusals "semi(5;no(a);no(b))".toList "semi".toList splitting
      "5;no(a);no(b)".toList :=
    ⟨rfl, [], _, rfl, List.forall_mem_nil _⟩
  have hitem : Claims listsAndRefusals "no(a)".toList "no".toList refusing ['a'] :=
    ⟨rfl, [("semi".toList, splitting)], [], rfl, by simp [call]⟩
  have hrefuses : Refuses listsAndRefusals "no(a)".toList "no".toList ['a'] ['a'] :=
    ⟨refusing, hitem, rfl⟩
  have hfirst : ∀ earlier, .string earlier ∈ [Value.string ['5']] →
      ¬ IsRefused listsAndRefusals earlier := by
    intro earlier hmem
    obtain rfl := Value.string.inj (List.mem_singleton.mp hmem)
    exact not_isRefused (by decide)
  have hfails : FailsAt listsAndRefusals "semi(5;no(a);no(b))".toList "no(a)".toList :=
    .item (.claimed hlist rfl) hfirst ⟨_, _, _, hrefuses⟩
  exact ((cast_exact _ _).2.1 _).mpr ⟨_, _, _, _, hfails, hrefuses, rfl, rfl⟩

end DocQuery.CasterTable
