import DocQuery.Dict
import Mathlib.Data.List.Induction

/-!
# Inserting into a dictionary

* `Dict.without`: a dictionary without the entries of a key.
* `nodup_keys_insert`, `nodup_keys_insertAll`: inserting keeps the keys distinct.
* **`insert_perm`**: up to order, inserting puts an entry in the place of those of its key.
* **`mem_ofList`**: after insertions a key has the last value that was inserted for it.
-/

namespace DocQuery.Dict

variable {α : Type}

/-- A dictionary without the entries of a key. -/
def without (key : Text) (d : Dict α) : Dict α := d.filter fun entry => entry.1 ≠ key

@[simp]
theorem keys_append (d e : Dict α) : keys (d ++ e) = keys d ++ keys e := List.map_append

theorem mem_keys {key : Text} {d : Dict α} : key ∈ keys d ↔ ∃ v, (key, v) ∈ d := by
  simp [keys]

theorem mem_keys_insert {key k : Text} {v : α} {d : Dict α} :
    k ∈ keys (insert key v d) ↔ k = key ∨ k ∈ keys d := by
  rw [keys_insert]
  split
  · rename_i hkey
    exact ⟨.inr, fun h => h.elim (fun heq => heq ▸ hkey) id⟩
  · rw [List.mem_append, List.mem_singleton, or_comm]

theorem eq_or_mem_of_mem_insert {key : Text} {v : α} {d : Dict α} {entry : Text × α}
    (h : entry ∈ insert key v d) : entry = (key, v) ∨ entry ∈ d := by
  induction d with
  | nil => exact .inl (List.mem_singleton.mp h)
  | cons e d ih =>
    obtain ⟨k, w⟩ := e
    rw [insert] at h
    split at h
    · exact (List.mem_cons.mp h).imp_right (List.mem_cons_of_mem _)
    · rcases List.mem_cons.mp h with rfl | h
      · exact .inr List.mem_cons_self
      · exact (ih h).imp_right (List.mem_cons_of_mem _)

theorem mem_or_mem_of_mem_insertAll {entries d : Dict α} {entry : Text × α}
    (h : entry ∈ insertAll entries d) : entry ∈ entries ∨ entry ∈ d := by
  induction entries generalizing d with
  | nil => exact .inr h
  | cons first entries ih =>
    rcases ih h with hmem | hmem
    · exact .inl (List.mem_cons_of_mem _ hmem)
    · rcases eq_or_mem_of_mem_insert hmem with rfl | hmem
      · exact .inl List.mem_cons_self
      · exact .inr hmem

theorem mem_keys_insertAll {key : Text} {entries d : Dict α} :
    key ∈ keys (insertAll entries d) ↔ key ∈ keys entries ∨ key ∈ keys d := by
  induction entries generalizing d with
  | nil => simp [insertAll, keys]
  | cons entry entries ih =>
    have hcons : keys (entry :: entries) = entry.1 :: keys entries := rfl
    change key ∈ keys (insertAll entries (insert entry.1 entry.2 d)) ↔ _
    rw [ih, mem_keys_insert, hcons, List.mem_cons, or_left_comm, or_assoc]

theorem nodup_keys_insert {d : Dict α} (key : Text) (v : α) (h : (keys d).Nodup) :
    (keys (insert key v d)).Nodup := by
  rw [keys_insert]
  split
  · exact h
  · rename_i hkey
    exact List.nodup_append.mpr ⟨h, by simp, fun k hk l hl => by
      rw [List.mem_singleton.mp hl]
      exact fun heq => hkey (heq ▸ hk)⟩

theorem nodup_keys_insertAll (entries : List (Text × α)) {d : Dict α} (h : (keys d).Nodup) :
    (keys (insertAll entries d)).Nodup := by
  induction entries generalizing d with
  | nil => exact h
  | cons entry entries ih => exact ih (nodup_keys_insert entry.1 entry.2 h)

/-! ## Leaving out a key -/

theorem without_append (key : Text) (d e : Dict α) :
    without key (d ++ e) = without key d ++ without key e :=
  List.filter_append ..

theorem without_eq_self {key : Text} {d : Dict α} (h : key ∉ keys d) : without key d = d := by
  refine List.filter_eq_self.mpr fun entry hentry => ?_
  have hne : entry.1 ≠ key := fun heq => h (heq ▸ List.mem_map_of_mem hentry)
  simpa using hne

theorem without_perm {d e : Dict α} (key : Text) (h : d.Perm e) :
    (without key d).Perm (without key e) :=
  h.filter _

theorem keys_perm {d e : Dict α} (h : d.Perm e) : (keys d).Perm (keys e) := h.map _

/-- **Up to order, an entry is inserted in the place of those of its key.** -/
theorem insert_perm {d : Dict α} (key : Text) (v : α) (h : (keys d).Nodup) :
    (insert key v d).Perm ((key, v) :: without key d) := by
  induction d with
  | nil => exact .refl _
  | cons entry d ih =>
    obtain ⟨k, w⟩ := entry
    obtain ⟨hk, hd⟩ := List.nodup_cons.mp h
    rw [insert]
    split
    · rename_i heq
      subst heq
      have hout : without k ((k, w) :: d) = d := by
        rw [without, List.filter_cons_of_neg (by simp)]
        exact without_eq_self hk
      rw [hout]
    · rename_i hne
      have hin : without key ((k, w) :: d) = (k, w) :: without key d := by
        rw [without, List.filter_cons_of_pos (by simpa using hne)]
        rfl
      rw [hin]
      exact ((ih hd).cons (k, w)).trans (.swap (key, v) (k, w) _)

theorem mem_without {key k : Text} {v : α} {d : Dict α} :
    (k, v) ∈ without key d ↔ (k, v) ∈ d ∧ k ≠ key := by
  simp [without]

theorem ofList_concat (entries : List (Text × α)) (key : Text) (v : α) :
    ofList (entries ++ [(key, v)]) = insert key v (ofList entries) :=
  List.foldl_append

/-- **The last entry of a key counts.** -/
theorem mem_ofList {entries : List (Text × α)} {key : Text} {v : α} :
    (key, v) ∈ ofList entries ↔
      ∃ before after, entries = before ++ (key, v) :: after ∧ key ∉ keys after := by
  induction entries using List.reverseRecOn with
  | nil => simp [ofList, insertAll]
  | append_singleton entries entry ih =>
    obtain ⟨k, w⟩ := entry
    have hnodup : (keys (ofList entries)).Nodup := nodup_keys_insertAll entries List.nodup_nil
    rw [ofList_concat, (insert_perm k w hnodup).mem_iff, List.mem_cons, mem_without, ih]
    constructor
    · rintro (heq | ⟨⟨before, after, rfl, hafter⟩, hne⟩)
      · cases heq
        exact ⟨entries, [], rfl, List.not_mem_nil⟩
      · refine ⟨before, after ++ [(k, w)], by simp, ?_⟩
        rw [keys_append, List.mem_append]
        rintro (hmem | hmem)
        · exact hafter hmem
        · exact hne (List.mem_singleton.mp hmem)
    · rintro ⟨before, after, heq, hafter⟩
      rcases after.eq_nil_or_concat with rfl | ⟨after, last, rfl⟩
      · exact .inl (List.singleton_inj.mp (List.append_inj' heq rfl).2).symm
      · rw [List.concat_eq_append, ← List.cons_append, ← List.append_assoc] at heq
        obtain ⟨rfl, hlast⟩ := List.append_inj' heq rfl
        obtain rfl := List.singleton_inj.mp hlast
        rw [List.concat_eq_append, keys_append, List.mem_append, not_or] at hafter
        exact .inr ⟨⟨before, after, rfl, hafter.1⟩, fun heq => hafter.2 (heq ▸ List.mem_cons_self)⟩

end DocQuery.Dict
