import DocQuery.Literal.Caster
import DocQuery.Proofs.Dict.Last
import DocQuery.Proofs.Text.Split
import DocQuery.Proofs.Text.Token

/-!
# The caster of a text

* `CasterTable.inner?_eq_some_iff`, `CasterTable.claim?_eq_some_iff`: the first caster whose name
  stands in front of an inner text in parentheses.
* `CasterTable.HasNoOpening`, **`CasterTable.claim?_eq_some_iff_get?`**: names without an opening
  parenthesis are told by the text, so that at most one caster claims it.
* `CasterTable.cast_congr`: tables with the same caster for each name give the same values.
* **`CasterTable.cast_registrations`**: what a table holds after some registrations, and that their
  order does not matter to the values.
-/

namespace DocQuery.CasterTable

variable {casters others : CasterTable} {name value inner : Text} {caster : Caster}

/-! ## The first caster -/

/-- A name with an inner text in parentheses. -/
def call (name inner : Text) : Text := name ++ '(' :: (inner ++ [')'])

theorem inner?_eq_some_iff : inner? name value = some inner ↔ value = call name inner := by
  rw [inner?, Text.between?, Option.bind_eq_some_iff]
  simp only [List.isPrefixOf?_eq_some_iff_append_eq, List.isSuffixOf?_eq_some_iff_append_eq]
  constructor
  · rintro ⟨rest, rfl, rfl⟩
    simp [call]
  · rintro rfl
    exact ⟨inner ++ [')'], by simp [call], rfl⟩

/-- **The first caster that a text is a call of** claims it. -/
theorem claim?_eq_some_iff :
    claim? casters value = some (name, caster, inner) ↔
      value = call name inner ∧ ∃ before after, casters = before ++ (name, caster) :: after ∧
        ∀ entry ∈ before, inner? entry.1 value = none := by
  rw [claim?, List.findSome?_eq_some_iff]
  constructor
  · rintro ⟨before, ⟨name', caster'⟩, after, rfl, hinner, hbefore⟩
    obtain ⟨inner', hinner, heq⟩ := Option.map_eq_some_iff.mp hinner
    cases heq
    exact ⟨inner?_eq_some_iff.mp hinner, before, after, rfl,
      fun entry hentry => Option.map_eq_none_iff.mp (hbefore entry hentry)⟩
  · rintro ⟨hvalue, before, after, rfl, hbefore⟩
    refine ⟨before, (name, caster), after, rfl, ?_,
      fun entry hentry => Option.map_eq_none_iff.mpr (hbefore entry hentry)⟩
    exact Option.map_eq_some_iff.mpr ⟨inner, inner?_eq_some_iff.mpr hvalue, rfl⟩

/-- A caster that claims a text is the first one of its name. -/
theorem get?_of_claim? (h : claim? casters value = some (name, caster, inner)) :
    Dict.get? name casters = some caster := by
  obtain ⟨hvalue, before, after, rfl, hbefore⟩ := claim?_eq_some_iff.mp h
  have hnone : Dict.get? name before = none := by
    rw [Dict.get?_eq_none_iff]
    intro hmem
    obtain ⟨entry, hentry, rfl⟩ := List.mem_map.mp hmem
    have hcall := hbefore entry hentry
    rw [inner?_eq_some_iff.mpr hvalue] at hcall
    cases hcall
  rw [Dict.get?_append, hnone, Option.none_or, Dict.get?, if_pos rfl]

/-- No caster claims a text without an opening parenthesis. -/
theorem claim?_eq_none (h : '(' ∉ value) : claim? casters value = none := by
  rw [Option.eq_none_iff_forall_ne_some]
  rintro ⟨name, caster, inner⟩ hclaim
  obtain ⟨rfl, -⟩ := claim?_eq_some_iff.mp hclaim
  exact h (by simp [call])

/-! ## Names without parentheses -/

/-- No name has an opening parenthesis. -/
def HasNoOpening (casters : List (Text × Caster)) : Prop := ∀ name ∈ Dict.keys casters, '(' ∉ name

/-- **The text tells the name of its caster**, so that the order of the casters does not matter. -/
theorem claim?_eq_some_iff_get? (h : HasNoOpening casters) :
    claim? casters value = some (name, caster, inner) ↔
      value = call name inner ∧ Dict.get? name casters = some caster := by
  refine ⟨fun hclaim => ⟨(claim?_eq_some_iff.mp hclaim).1, get?_of_claim? hclaim⟩, ?_⟩
  rintro ⟨hvalue, hget⟩
  have hname : '(' ∉ name := h name (List.mem_map_of_mem (Dict.mem_of_get? hget))
  cases hclaim : claim? casters value with
  | none =>
    have hinner := List.findSome?_eq_none_iff.mp hclaim (name, caster) (Dict.mem_of_get? hget)
    rw [Option.map_eq_none_iff, inner?_eq_some_iff.mpr hvalue] at hinner
    cases hinner
  | some found =>
    obtain ⟨name', caster', inner'⟩ := found
    have hvalue' := (claim?_eq_some_iff.mp hclaim).1
    have hget' := get?_of_claim? hclaim
    have hname' : '(' ∉ name' := h name' (List.mem_map_of_mem (Dict.mem_of_get? hget'))
    obtain ⟨rfl, hinner⟩ :=
      (Text.append_cons_inj hname hname').mp (hvalue.symm.trans hvalue')
    obtain rfl := List.append_cancel_right hinner
    rw [hget] at hget'
    cases hget'
    rfl

/-! ## Tables that hold the same -/

section Same

variable (h : HasNoOpening casters) (h' : HasNoOpening others)
  (hsame : ∀ name, Dict.get? name casters = Dict.get? name others)

include h h' hsame

theorem claim?_congr (value : Text) : claim? casters value = claim? others value := by
  refine Option.ext fun found => ?_
  obtain ⟨name, caster, inner⟩ := found
  rw [claim?_eq_some_iff_get? h, claim?_eq_some_iff_get? h', hsame]

theorem castText_congr : castText casters = castText others := by
  funext value
  rw [castText, castText, claim?_congr h h' hsame]

/-- **Tables with the same caster for each name** give each text and each item of a list the same
value or error. -/
theorem cast_congr : cast casters = cast others := by
  have htext := castText_congr h h' hsame
  have hitem : castItem casters = castItem others := by
    funext item
    cases item <;> simp only [castItem, htext]
  funext value
  rw [cast, cast, htext, hitem]

end Same

/-! ## Registrations -/

theorem hasNoOpening_ofList {entries : List (Text × Caster)} (h : HasNoOpening entries) :
    HasNoOpening (Dict.ofList entries) := by
  intro name hname
  rw [Dict.keys_ofList, List.mem_eraseDups] at hname
  exact h name hname

/-- **Registrations.** A table has each name once, in order of first registration, with the caster
that was registered last for it. If no name has an opening parenthesis, then only the last caster of
each name matters to the values of texts. -/
theorem cast_registrations :
    (∀ entries others : List (Text × Caster), HasNoOpening entries → HasNoOpening others →
      (∀ name, Dict.last? name entries = Dict.last? name others) →
        ∀ text, cast (Dict.ofList entries) text = cast (Dict.ofList others) text) ∧
      ∀ entries : List (Text × Caster),
        (Dict.keys (Dict.ofList entries)).Nodup ∧
          Dict.keys (Dict.ofList entries) = (Dict.keys entries).eraseDups ∧
            ∀ name caster, (name, caster) ∈ Dict.ofList entries ↔
              Dict.last? name entries = some caster := by
  refine ⟨fun entries others h h' hlast text => ?_, fun entries => ?_⟩
  · have hsame : ∀ name, Dict.get? name (Dict.ofList entries) =
        Dict.get? name (Dict.ofList others) := by
      simpa only [Dict.get?_ofList] using hlast
    rw [cast_congr (hasNoOpening_ofList h) (hasNoOpening_ofList h') hsame]
  · have hnodup := Dict.nodup_keys_ofList entries
    refine ⟨hnodup, Dict.keys_ofList entries, fun name caster => ?_⟩
    rw [Dict.mem_iff_get? hnodup, Dict.get?_ofList]

/-- A caster that takes an inner text as it is. -/
def verbatim : Caster := fun inner => .ok (.string inner)

/-- A caster that refuses an inner text. -/
def refusing : Caster := fun inner => .error inner

/-- A caster that is registered again counts in its old place, in front of one whose name it
begins. -/
theorem cast_registrations_replaced :
    cast (Dict.ofList [(['a'], refusing), (['a', 'b'], refusing), (['a'], verbatim)]) "a(5)".toList =
        cast (Dict.ofList [(['a', 'b'], refusing), (['a'], verbatim)]) "a(5)".toList ∧
      cast (Dict.ofList [(['a', 'b'], refusing), (['a'], verbatim)]) "a(5)".toList =
          .ok (.string ['5']) ∧
        Dict.keys (Dict.ofList [(['a'], refusing), (['a', 'b'], refusing), (['a'], verbatim)]) =
          [['a'], ['a', 'b']] := by
  have hnames : HasNoOpening [(['a'], refusing), (['a', 'b'], refusing), (['a'], verbatim)] := by
    simp [HasNoOpening, Dict.keys]
  have hnames' : HasNoOpening [(['a', 'b'], refusing), (['a'], verbatim)] := by
    simp [HasNoOpening, Dict.keys]
  have hlast : ∀ name,
      Dict.last? name [(['a'], refusing), (['a', 'b'], refusing), (['a'], verbatim)] =
        Dict.last? name [(['a', 'b'], refusing), (['a'], verbatim)] := by
    intro name
    simp only [Dict.last?, List.reverse_cons, List.reverse_nil, List.nil_append, List.cons_append,
      Dict.get?]
    grind
  exact ⟨cast_registrations.1 _ _ hnames hnames' hlast _, rfl, (cast_registrations.2 _).2.1⟩

end DocQuery.CasterTable
