import DocQuery.Proofs.Dict.Insert
import Mathlib.Data.List.Basic

/-!
# Last values

What insertions leave, said without inserting: each key once, in order of first appearance, with
the last value that was given to it.

* `Dict.last?`, `Dict.collapse`.
* **`keys_foldl`**: steps that insert a key each leave the keys in order of first appearance.
* **`get?_insertAll`**: the last value that is inserted for a key counts, and else the one before.
* `last?_without_iff`: which entries have no part in the last values.
* **`ofList_eq_collapse`**: insertions into the empty dictionary leave just that.
* **`insertAll_append_self`**: the same insertions once more change nothing.
-/

namespace DocQuery.Dict

variable {α β : Type}

/-- The value of the last entry of a key. -/
def last? (key : Text) (entries : List (Text × α)) : Option α := get? key entries.reverse

/-- Each key of a list of entries once, in order of first appearance, with its last value. -/
def collapse (entries : List (Text × α)) : Dict α :=
  (keys entries).eraseDups.filterMap fun key => (last? key entries).map fun v => (key, v)

/-! ## Values -/

theorem get?_append (key : Text) (d e : Dict α) :
    get? key (d ++ e) = (get? key d).or (get? key e) := by
  induction d with
  | nil => rfl
  | cons entry d ih =>
    obtain ⟨k, v⟩ := entry
    rw [List.cons_append, get?, get?, ih]
    split <;> rfl

theorem get?_eq_none_iff {key : Text} {d : Dict α} : get? key d = none ↔ key ∉ keys d := by
  induction d with
  | nil => simp [get?, keys]
  | cons entry d ih =>
    obtain ⟨k, v⟩ := entry
    rw [keys] at ih
    rw [get?, keys, List.map_cons, List.mem_cons, not_or]
    split
    · rename_i hk
      simp [hk]
    · rename_i hk
      rw [ih]
      exact ⟨fun h => ⟨Ne.symm hk, h⟩, fun h => h.2⟩

theorem mem_of_get? {key : Text} {v : α} {d : Dict α} (h : get? key d = some v) : (key, v) ∈ d := by
  induction d with
  | nil => cases h
  | cons entry d ih =>
    obtain ⟨k, w⟩ := entry
    rw [get?] at h
    split at h
    · rename_i hk
      cases h
      rw [hk]
      exact List.mem_cons_self
    · exact List.mem_cons_of_mem _ (ih h)

theorem last?_append (key : Text) (entries others : List (Text × α)) :
    last? key (entries ++ others) = (last? key others).or (last? key entries) := by
  rw [last?, List.reverse_append, get?_append]
  rfl

theorem isSome_last? {key : Text} {entries : List (Text × α)} :
    (last? key entries).isSome ↔ key ∈ keys entries := by
  rw [← not_iff_not, Bool.not_eq_true, Option.isSome_eq_false_iff, Option.isNone_iff_eq_none, last?,
    get?_eq_none_iff, keys, List.map_reverse, List.mem_reverse]
  rfl

/-- **The last value that is inserted for a key counts**, and the value before if there is none. -/
theorem get?_insertAll (key : Text) (entries : List (Text × α)) (d : Dict α) :
    get? key (insertAll entries d) = (last? key entries).or (get? key d) := by
  induction entries generalizing d with
  | nil => rfl
  | cons entry entries ih =>
    obtain ⟨k, v⟩ := entry
    have hcons : last? key ((k, v) :: entries) = (last? key entries).or (get? key [(k, v)]) :=
      last?_append key [(k, v)] entries
    change get? key (insertAll entries (insert k v d)) = _
    rw [ih, get?_insert, hcons, Option.or_assoc]
    simp only [get?]
    split <;> rfl

theorem get?_ofList (key : Text) (entries : List (Text × α)) :
    get? key (ofList entries) = last? key entries := by
  rw [ofList, get?_insertAll, get?, Option.or_none]

theorem mem_iff_get? {d : Dict α} (h : (keys d).Nodup) {key : Text} {v : α} :
    (key, v) ∈ d ↔ get? key d = some v := by
  refine ⟨fun hmem => ?_, mem_of_get?⟩
  obtain ⟨before, after, rfl⟩ := List.append_of_mem hmem
  rw [keys_append] at h
  obtain ⟨-, -, hout⟩ := List.nodup_append.mp h
  have hbefore : key ∉ keys before := fun hkey => hout key hkey key List.mem_cons_self rfl
  rw [get?_append, get?_eq_none_iff.mpr hbefore, Option.none_or, get?, if_pos rfl]

/-- Entries in the middle have no part in the last values just if for each key that they give a
value last a later entry has one, or the entries before gave it the same. -/
theorem last?_without_iff {before middle after : List (Text × α)} :
    (∀ key v, last? key (before ++ after) = some v ↔
        last? key (before ++ middle ++ after) = some v) ↔
      ∀ key v, last? key middle = some v → key ∈ keys after ∨ last? key before = some v := by
  simp only [last?_append]
  constructor
  · intro h key v hv
    by_cases hkey : key ∈ keys after
    · exact .inl hkey
    · have hnone : last? key after = none := by
        rw [← Option.not_isSome_iff_eq_none, isSome_last?]
        exact hkey
      have hsame := h key v
      rw [hnone, hv, Option.none_or, Option.none_or, Option.some_or] at hsame
      exact .inr (hsame.mpr rfl)
  · intro h key v
    cases hafter : last? key after with
    | some w => rw [Option.some_or, Option.some_or]
    | none =>
      cases hmiddle : last? key middle with
      | none => rw [Option.none_or, Option.none_or]
      | some w =>
        have hkey : key ∉ keys after := by
          rw [← isSome_last?, hafter]
          exact Bool.false_ne_true
        rw [(h key w hmiddle).resolve_left hkey, Option.none_or, Option.none_or, Option.some_or]

/-! ## Keys -/

/-- **Steps that insert a key each leave the keys in order of first appearance.** -/
theorem keys_foldl {step : Dict α → β → Dict α} {key : β → Text}
    (hstep : ∀ d b, keys (step d b) = if key b ∈ keys d then keys d else keys d ++ [key b])
    (items : List β) : keys (items.foldl step []) = (items.map key).eraseDups := by
  induction items using List.reverseRecOn with
  | nil => rfl
  | append_singleton items item ih =>
    rw [List.foldl_append, List.foldl_cons, List.foldl_nil, hstep, ih, List.map_append,
      List.eraseDups_append, List.map_singleton]
    by_cases hmem : key item ∈ items.map key
    · have hout : [key item].removeAll (items.map key) = [] := by
        simp [List.removeAll, List.mem_map.mp hmem]
      rw [hout, if_pos (List.mem_eraseDups.mpr hmem), List.eraseDups_nil, List.append_nil]
    · have hin : [key item].removeAll (items.map key) = [key item] := by
        simpa [List.removeAll] using hmem
      rw [hin, if_neg (hmem ∘ List.mem_eraseDups.mp)]
      rfl

theorem keys_ofList (entries : List (Text × α)) :
    keys (ofList entries) = (keys entries).eraseDups :=
  keys_foldl (fun d entry => keys_insert entry.1 entry.2 d) entries

theorem insertAll_append (entries others : List (Text × α)) (d : Dict α) :
    insertAll (entries ++ others) d = insertAll others (insertAll entries d) :=
  List.foldl_append

/-- Keys that are there stay where they are. -/
theorem keys_insertAll_of_mem {entries d : Dict α} (h : ∀ key ∈ keys entries, key ∈ keys d) :
    keys (insertAll entries d) = keys d := by
  induction entries generalizing d with
  | nil => rfl
  | cons entry entries ih =>
    have hkeys : keys (insert entry.1 entry.2 d) = keys d := by
      rw [keys_insert, if_pos (h entry.1 List.mem_cons_self)]
    change keys (insertAll entries (insert entry.1 entry.2 d)) = keys d
    rw [ih, hkeys]
    intro key hkey
    rw [hkeys]
    exact h key (List.mem_cons_of_mem _ hkey)

/-! ## Dictionaries told by their keys and values -/

/-- A dictionary with distinct keys has the value of each of its keys. -/
theorem eq_filterMap_keys {d : Dict α} (h : (keys d).Nodup) :
    d = (keys d).filterMap fun key => (get? key d).map fun v => (key, v) := by
  induction d with
  | nil => rfl
  | cons entry d ih =>
    obtain ⟨k, v⟩ := entry
    obtain ⟨hk, hd⟩ := List.nodup_cons.mp h
    have hrest : ((keys d).filterMap fun key => (get? key ((k, v) :: d)).map fun v => (key, v)) =
        (keys d).filterMap fun key => (get? key d).map fun v => (key, v) := by
      refine List.filterMap_congr fun key hkey => ?_
      have hne : k ≠ key := fun heq => hk (heq ▸ hkey)
      rw [get?, if_neg hne]
    change _ = (k :: keys d).filterMap _
    rw [List.filterMap_cons, hrest, ← ih hd, get?, if_pos rfl]
    rfl

theorem nodup_keys_ofList (entries : List (Text × α)) : (keys (ofList entries)).Nodup :=
  nodup_keys_insertAll entries List.nodup_nil

/-- Dictionaries of distinct keys are equal if they have the same keys in the same order and the
same value for each. -/
theorem eq_of_keys_eq {d e : Dict α} (h : (keys d).Nodup) (hkeys : keys d = keys e)
    (hvalues : ∀ key, get? key d = get? key e) : d = e := by
  have h' : (keys e).Nodup := hkeys ▸ h
  rw [eq_filterMap_keys h, eq_filterMap_keys h', hkeys]
  simp only [hvalues]

/-- **Insertions leave each key once, where it first appeared, with its last value.** -/
theorem ofList_eq_collapse (entries : List (Text × α)) : ofList entries = collapse entries := by
  rw [eq_filterMap_keys (nodup_keys_ofList entries), keys_ofList, collapse]
  simp only [get?_ofList]

theorem ofList_eq_nil_iff {entries : List (Text × α)} : ofList entries = [] ↔ entries = [] := by
  constructor
  · intro h
    have hkeys := keys_ofList entries
    rw [h] at hkeys
    cases entries with
    | nil => rfl
    | cons entry entries =>
      rw [keys, keys, List.map_cons, List.eraseDups_cons] at hkeys
      cases hkeys
  · rintro rfl
    rfl

/-- What is inserted is told by its keys in order of first appearance and their last values. -/
theorem eq_ofList_iff {d : Dict α} {entries : List (Text × α)} :
    d = ofList entries ↔
      keys d = (keys entries).eraseDups ∧ ∀ key, get? key d = last? key entries := by
  constructor
  · rintro rfl
    exact ⟨keys_ofList entries, fun key => get?_ofList key entries⟩
  · rintro ⟨hkeys, hvalues⟩
    have hsame : keys (ofList entries) = keys d := (keys_ofList entries).trans hkeys.symm
    exact (eq_of_keys_eq (nodup_keys_ofList entries) hsame fun key =>
      (get?_ofList key entries).trans (hvalues key).symm).symm

theorem insert_eq_append {key : Text} {d : Dict α} (v : α) (h : key ∉ keys d) :
    insert key v d = d ++ [(key, v)] := by
  induction d with
  | nil => rfl
  | cons entry d ih =>
    obtain ⟨k, w⟩ := entry
    have hne : k ≠ key := fun heq => h (heq ▸ List.mem_cons_self)
    rw [insert, if_neg hne, ih fun hmem => h (List.mem_cons_of_mem _ hmem), List.cons_append]

/-- Entries of distinct keys are inserted as they stand. -/
theorem ofList_eq_self {d : Dict α} (h : (keys d).Nodup) : ofList d = d := by
  induction d using List.reverseRecOn with
  | nil => rfl
  | append_singleton d entry ih =>
    obtain ⟨k, v⟩ := entry
    rw [keys_append] at h
    obtain ⟨hd, -, hout⟩ := List.nodup_append.mp h
    have hk : k ∉ keys d := fun hmem => hout k hmem k List.mem_cons_self rfl
    rw [ofList_concat, ih hd, insert_eq_append v hk]

/-- **Insertions that are made once more change nothing.** -/
theorem insertAll_append_self (entries : List (Text × α)) {d : Dict α} (h : (keys d).Nodup) :
    insertAll (entries ++ entries) d = insertAll entries d := by
  rw [insertAll_append]
  refine eq_of_keys_eq (nodup_keys_insertAll _ (nodup_keys_insertAll _ h)) ?_ fun key => ?_
  · exact keys_insertAll_of_mem fun key hkey => mem_keys_insertAll.mpr (.inl hkey)
  · rw [get?_insertAll, get?_insertAll, ← Option.or_assoc, Option.or_self]

theorem ofList_append_self (entries : List (Text × α)) :
    ofList (entries ++ entries) = ofList entries :=
  insertAll_append_self entries List.nodup_nil

end DocQuery.Dict
