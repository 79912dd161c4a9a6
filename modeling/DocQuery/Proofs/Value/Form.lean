import DocQuery.Proofs.Dict.Last
import DocQuery.Value.Extended
import Mathlib.Data.List.Permutation

/-!
# Documents that are the form of other values

The keys of a document alone tell whether it can be the form of another value. Whether it is one
depends on its values, too.

* `Value.isPlain`, **`makesPlain_of_form`**: a form with one key is read as a value without
  documents.
* `special?_eq_some`, `special?_eq_none`: what is the form of another value, and what is not.
* **`reduce_eq_document_iff`**: a document stays one if it is not the form of another value.
* `TellsForm`: the keys of a document tell a form.
* `ReadsForms`, **`readsForms_reduce`**: documents are read by their keys.
-/

namespace DocQuery

mutual

/-- No document stands in a value, and the options of regular expressions are in order. -/
def Value.isPlain : Value → Bool
  | .document _ => false
  | .codeWithScope _ _ => false
  | .regex _ options => sortedOptions options = options
  | .array items => arePlain items
  | _ => true

/-- No document stands in the items. -/
def arePlain : List Value → Bool
  | [] => true
  | v :: rest => v.isPlain && arePlain rest

end

/-! ## Forms with one key -/

/-- All that a reader makes are values without documents, and none of them is null. -/
def MakesPlain (read? : Value → Option Value) : Prop :=
  ∀ v w, read? v = some w → w.isPlain = true ∧ w ≠ .null

theorem makesPlain_readObjectId? : MakesPlain readObjectId? := by
  intro v w h
  unfold readObjectId? at h
  split at h
  · obtain ⟨-, h⟩ := Option.ite_none_right_eq_some.mp h
    obtain ⟨n, -, rfl⟩ := Option.map_eq_some_iff.mp h
    exact ⟨rfl, nofun⟩
  · cases h

/-- What a text is read as stands in a value of its own kind. -/
theorem makesPlain_readString? {α : Type} (read? : Text → Option α) {make : α → Value}
    (hmake : ∀ a, (make a).isPlain = true ∧ make a ≠ .null) :
    MakesPlain (readString? fun text => (read? text).map make) := by
  intro v w h
  unfold readString? at h
  split at h
  · obtain ⟨a, -, rfl⟩ := Option.map_eq_some_iff.mp h
    exact hmake a
  · cases h

theorem makesPlain_readDecimalBytes? : MakesPlain readDecimalBytes? := by
  intro v w h
  obtain ⟨x, -, rfl⟩ := Option.map_eq_some_iff.mp h
  exact ⟨rfl, nofun⟩

theorem makesPlain_writtenBytes? (text : Text) : MakesPlain (writtenBytes? text) := by
  intro v w h
  unfold writtenBytes? at h
  split at h
  · obtain ⟨bytes, -, h⟩ := Option.bind_eq_some_iff.mp h
    obtain ⟨kind, -, h⟩ := Option.bind_eq_some_iff.mp h
    cases h
    exact ⟨rfl, nofun⟩
  · cases h

theorem makesPlain_countedBytes? (bytes : Value) : MakesPlain (countedBytes? bytes) := by
  intro v w h
  unfold countedBytes? at h
  split at h
  · obtain ⟨-, h⟩ := Option.ite_none_right_eq_some.mp h
    obtain ⟨bytes, -, rfl⟩ := Option.map_eq_some_iff.mp h
    exact ⟨rfl, nofun⟩
  · cases h

theorem makesPlain_readBinary? : MakesPlain readBinary? := by
  intro v w h
  unfold readBinary? at h
  split at h
  · obtain ⟨kind, -, h⟩ := Option.bind_eq_some_iff.mp h
    split at h
    · exact makesPlain_writtenBytes? _ _ _ h
    · obtain ⟨bytes, -, h⟩ := Option.bind_eq_some_iff.mp h
      exact makesPlain_countedBytes? _ _ _ h
  · cases h

theorem makesPlain_readDbPointer? : MakesPlain readDbPointer? := by
  intro v w h
  unfold readDbPointer? at h
  split at h
  · split at h
    · cases h
      exact ⟨rfl, nofun⟩
    · cases h
  · cases h

theorem makesPlain_readDate? : MakesPlain readDate? := by
  intro v w h
  unfold readDate? at h
  split at h
  · cases h
    exact ⟨rfl, nofun⟩
  · obtain ⟨millis, -, rfl⟩ := Option.map_eq_some_iff.mp h
    exact ⟨rfl, nofun⟩
  · cases h

theorem makesPlain_timestampOf? (time : Value) : MakesPlain (timestampOf? time) := by
  intro v w h
  unfold timestampOf? at h
  split at h
  · cases h
    exact ⟨rfl, nofun⟩
  · obtain ⟨-, h⟩ := Option.ite_none_right_eq_some.mp h
    cases h
    exact ⟨rfl, nofun⟩
  · cases h

theorem makesPlain_readTimestamp? : MakesPlain readTimestamp? := by
  intro v w h
  unfold readTimestamp? at h
  split at h
  · obtain ⟨t, -, h⟩ := Option.bind_eq_some_iff.mp h
    obtain ⟨i, -, h⟩ := Option.bind_eq_some_iff.mp h
    exact makesPlain_timestampOf? _ _ _ h
  · cases h

theorem sortedOptions_sortedOptions (options : Text) :
    sortedOptions (sortedOptions options) = sortedOptions options :=
  sortOn_eq_self (sortOn_pairwise _ options)

theorem makesPlain_readRegex? : MakesPlain readRegex? := by
  intro v w h
  unfold readRegex? at h
  split at h
  · split at h
    · cases h
      exact ⟨decide_eq_true (sortedOptions_sortedOptions _), nofun⟩
    · cases h
  · cases h

/-- A word that stands for one value. -/
theorem makesPlain_word {isWord : Value → Bool} {u : Value}
    (hu : u.isPlain = true ∧ u ≠ .null) :
    MakesPlain fun v => if isWord v then some u else none := by
  intro v w h
  obtain ⟨-, h⟩ := Option.ite_none_right_eq_some.mp h
  cases h
  exact hu

/-- **A form with one key is read as a value without documents**, and not as null. -/
theorem makesPlain_of_form {key : Text} {read? : Value → Option Value}
    (h : (key, read?) ∈ forms) : MakesPlain read? := by
  have hall : ∀ form ∈ forms, MakesPlain form.2 := by
    simp only [forms, List.forall_mem_cons]
    exact ⟨makesPlain_readObjectId?, makesPlain_readString? some fun _ => ⟨rfl, nofun⟩,
      makesPlain_readString? some fun _ => ⟨rfl, nofun⟩,
      makesPlain_readString? _ fun _ => ⟨rfl, nofun⟩,
      makesPlain_readString? _ fun _ => ⟨rfl, nofun⟩,
      makesPlain_readString? _ fun _ => ⟨rfl, nofun⟩,
      makesPlain_readString? _ fun _ => ⟨rfl, nofun⟩, makesPlain_readDecimalBytes?,
      makesPlain_readBinary?, makesPlain_readDbPointer?, makesPlain_readDate?,
      makesPlain_word ⟨rfl, nofun⟩, makesPlain_word ⟨rfl, nofun⟩, makesPlain_word ⟨rfl, nofun⟩,
      makesPlain_readTimestamp?, makesPlain_readRegex?, fun _ h => absurd h List.not_mem_nil⟩
  exact hall _ h

/-- The twenty-four digits of an object identifier. -/
def zeroDigits : Text := List.replicate 24 '0'

/-- Every form with one key has a value. -/
theorem exists_of_form {key : Text} {read? : Value → Option Value} (h : (key, read?) ∈ forms) :
    ∃ v w, read? v = some w := by
  have hall : ∀ form ∈ forms, ∃ v w, form.2 v = some w := by
    simp only [forms, List.forall_mem_cons]
    exact ⟨⟨.string zeroDigits, _, rfl⟩, ⟨.string [], _, rfl⟩, ⟨.string [], _, rfl⟩,
      ⟨.string ['0'], _, rfl⟩, ⟨.string ['0'], _, rfl⟩, ⟨.string "nan".toList, _, rfl⟩,
      ⟨.string "nan".toList, _, rfl⟩, ⟨.binary 0 (List.replicate 16 0), _, rfl⟩,
      ⟨.document [("base64".toList, .string []), ("subType".toList, .string "00".toList)], _, rfl⟩,
      ⟨.document [("$ref".toList, .string []), ("$id".toList, .objectId 0)], _, rfl⟩,
      ⟨.int64 0, _, rfl⟩, ⟨.int32 1, _, rfl⟩, ⟨.int32 1, _, rfl⟩, ⟨.bool true, _, rfl⟩,
      ⟨.document [(['t'], .int32 0), (['i'], .int32 0)], _, rfl⟩,
      ⟨.document [("pattern".toList, .string []), ("options".toList, .string [])], _, rfl⟩,
      fun _ h => absurd h List.not_mem_nil⟩
  exact hall _ h

/-! ## Documents -/

/-- Code that is made of the values of two entries. -/
theorem codeOf?_eq_some {v w u : Value} (h : codeOf? v w = some u) :
    ∃ source scope, v = .string source ∧ w = .document scope ∧ u = .codeWithScope source scope := by
  unfold codeOf? at h
  split at h
  · exact ⟨_, _, rfl, rfl, (Option.some.inj h).symm⟩
  · cases h

/-- What a document is the form of: a value by its one key, or code with a scope. -/
theorem special?_eq_some {d : Document} {v : Value} (h : special? d = some v) :
    (∃ key w read?, d = [(key, w)] ∧ (key, read?) ∈ forms ∧ read? w = some v) ∨
      ∃ source scope, d.Perm [(codeKey, .string source), (scopeKey, .document scope)] ∧
        v = .codeWithScope source scope := by
  unfold special? at h
  split at h
  · obtain ⟨read?, hread, h⟩ := Option.bind_eq_some_iff.mp h
    exact .inl ⟨_, _, read?, rfl, Dict.mem_of_get? hread, h⟩
  · split at h
    · rename_i hkeys
      obtain ⟨source, scope, rfl, rfl, rfl⟩ := codeOf?_eq_some h
      rw [hkeys.1, hkeys.2]
      exact .inr ⟨source, scope, .refl _, rfl⟩
    · split at h
      · rename_i hkeys
        obtain ⟨source, scope, rfl, rfl, rfl⟩ := codeOf?_eq_some h
        rw [hkeys.1, hkeys.2]
        exact .inr ⟨source, scope, .swap _ _ _, rfl⟩
      · cases h
  · cases h

/-! ## Keys that tell forms -/

/-- The keys of a document tell a form: its one key is that of a form, or its two keys are those of
code with a scope. -/
def TellsForm (d : Document) : Prop :=
  (∃ key ∈ Dict.keys forms, Dict.keys d = [key]) ∨ (Dict.keys d).Perm [codeKey, scopeKey]

instance (d : Document) : Decidable (TellsForm d) := by unfold TellsForm; infer_instance

/-- What is the form of another value has keys that tell a form. -/
theorem tellsForm_of_special? {d : Document} {v : Value} (h : special? d = some v) :
    TellsForm d := by
  rcases special?_eq_some h with ⟨key, w, read?, rfl, hform, -⟩ | ⟨source, scope, hperm, -⟩
  · exact .inl ⟨key, List.mem_map_of_mem hform, rfl⟩
  · exact .inr (Dict.keys_perm hperm)

theorem special?_of_not_tellsForm {d : Document} (h : ¬TellsForm d) : special? d = none := by
  rw [Option.eq_none_iff_forall_ne_some]
  exact fun v hv => h (tellsForm_of_special? hv)

/-- Keys that tell a form have values that make it. -/
theorem exists_special?_of_tellsForm {d : Document} (h : TellsForm d) :
    ∃ e v, Dict.keys e = Dict.keys d ∧ special? e = some v := by
  rcases h with ⟨key, hkey, hd⟩ | hperm
  · obtain ⟨⟨key, read?⟩, hform, rfl⟩ := List.mem_map.mp hkey
    obtain ⟨v, w, hw⟩ := exists_of_form hform
    have hread : Dict.get? key forms = some read? := (Dict.mem_iff_get? (by decide)).mp hform
    refine ⟨[(key, v)], w, hd.symm, ?_⟩
    rw [special?, hread, Option.bind_some, hw]
  · rcases List.perm_pair.mp hperm with hd | hd
    · exact ⟨[(codeKey, .string []), (scopeKey, .document [])], _, hd.symm, rfl⟩
    · exact ⟨[(scopeKey, .document []), (codeKey, .string [])], _, hd.symm, rfl⟩

/-- The keys that tell forms. -/
def formKeys : List Text := scopeKey :: Dict.keys forms

/-- A document with any other key tells no form. -/
theorem not_tellsForm_of_mem {d : Document} {key : Text} (hkey : key ∈ Dict.keys d)
    (hform : key ∉ formKeys) : ¬TellsForm d := by
  rintro (⟨k, hk, hd⟩ | hperm)
  · rw [hd] at hkey
    obtain rfl := List.mem_singleton.mp hkey
    exact hform (List.mem_cons_of_mem _ hk)
  · have hboth : ∀ k ∈ [codeKey, scopeKey], k ∈ formKeys := by decide
    exact hform (hboth key (hperm.mem_iff.mp hkey))

/-- A document with any other key is not the form of a value. -/
theorem special?_eq_none {d : Document} {key : Text} (hkey : key ∈ Dict.keys d)
    (hform : key ∉ formKeys) : special? d = none :=
  special?_of_not_tellsForm (not_tellsForm_of_mem hkey hform)

/-! ## What documents are reduced to -/

theorem special?_ne_document {d e : Document} : special? d ≠ some (.document e) := by
  intro h
  rcases special?_eq_some h with ⟨key, w, read?, -, hform, hread⟩ | ⟨source, scope, -, hcode⟩
  · cases (makesPlain_of_form hform _ _ hread).1
  · cases hcode

/-- What a document is reduced to is never null. -/
theorem reduce_ne_null (d : Document) : reduce d ≠ .null := by
  rw [reduce]
  cases h : special? d with
  | none => exact nofun
  | some v =>
    rcases special?_eq_some h with ⟨key, w, read?, -, hform, hread⟩ | ⟨source, scope, -, rfl⟩
    · exact (makesPlain_of_form hform _ _ hread).2
    · exact nofun

/-- **A document stays one** just if it is not the form of another value. -/
theorem reduce_eq_document_iff {d e : Document} :
    reduce d = .document e ↔ d = e ∧ special? d = none := by
  rw [reduce]
  cases h : special? d with
  | none => simp
  | some v =>
    rw [Option.getD_some]
    constructor
    · rintro rfl
      exact absurd h special?_ne_document
    · rintro ⟨-, hnone⟩
      cases hnone

/-- Documents are read by their keys. One whose keys tell no form stays as it is, none is read as
another document or as null, and wherever the keys tell a form, there are values for them with which
the document is read as something else. So a number of 64 bits under `$date` is read as a date. -/
structure ReadsForms (asValue : Document → Value) : Prop where
  kept : ∀ d, ¬TellsForm d → asValue d = .document d
  eq_of_document : ∀ d e, asValue d = .document e → e = d
  ne_null : ∀ d, asValue d ≠ .null
  told : ∀ d, TellsForm d → ∃ e, Dict.keys e = Dict.keys d ∧ asValue e ≠ .document e
  date : ∀ n : Int64, asValue [("$date".toList, .int64 n)] = .dateTime n.toInt

/-- **Documents are read by their keys.** -/
theorem readsForms_reduce : ReadsForms reduce where
  kept d h := reduce_eq_document_iff.mpr ⟨rfl, special?_of_not_tellsForm h⟩
  eq_of_document d e h := (reduce_eq_document_iff.mp h).1.symm
  ne_null := reduce_ne_null
  told d h := by
    obtain ⟨e, v, hkeys, hspecial⟩ := exists_special?_of_tellsForm h
    refine ⟨e, hkeys, fun hsame => ?_⟩
    rw [(reduce_eq_document_iff.mp hsame).2] at hspecial
    cases hspecial
  date _ := rfl

end DocQuery
