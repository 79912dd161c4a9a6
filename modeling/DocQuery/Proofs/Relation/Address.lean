import DocQuery.Proofs.Relation.Flat

/-!
# Fields at addresses

The one document of a population has the fields of its relations, each under the names of the
address at which the relation is found.

* `Shows`: a relation at some address has a field.
* `shows_iff`: an address goes through the first relation of its first name.
* **`mem_flat`**: the entries of the one document are the fields at the addresses.
-/

namespace DocQuery.Population

/-- Whether a relation at some address has a field, whose name here is the names of the address and
then its own. -/
def Shows (relations : Population) (name : Text) (v : Value) : Prop :=
  ∃ address r fields key, find? address relations = some r ∧ r.projection = some fields ∧
    (key, v) ∈ fields ∧ name = ['.'].intercalate (address ++ [key])

theorem ne_nil_of_find? {address : List Text} {relations : Population} {r : Relation}
    (h : find? address relations = some r) : address ≠ [] := by
  rintro rfl
  cases h

theorem find?_cons (name : Text) {address : List Text} (h : address ≠ [])
    (relations : Population) :
    find? (name :: address) relations =
      (Relation.first? name relations).bind fun r => find? address r.children := by
  obtain ⟨next, address, rfl⟩ := List.exists_cons_of_ne_nil h
  rw [find?]
  exact fun heq => by cases heq

theorem mem_getD_iff {projection : Option Document} {entry : Text × Value} :
    entry ∈ projection.getD [] ↔ ∃ fields, projection = some fields ∧ entry ∈ fields := by
  cases projection <;> simp

theorem intercalate_address {name : Text} {address : List Text} (key : Text) :
    ['.'].intercalate ((name :: address) ++ [key]) =
      name ++ '.' :: ['.'].intercalate (address ++ [key]) := by
  rw [List.cons_append, List.intercalate_cons_of_ne_nil (by simp), List.append_assoc,
    List.singleton_append]

/-- A field is shown by the first relation of its first name or by those below that relation. -/
theorem shows_iff {relations : Population} {name : Text} {v : Value} :
    relations.Shows name v ↔ ∃ r, Relation.first? r.path relations = some r ∧
      ∃ key, name = r.path ++ '.' :: key ∧
        ((key, v) ∈ r.projection.getD [] ∨ Shows r.children key v) := by
  constructor
  · rintro ⟨address, r, fields, key, hfind, hfields, hmem, rfl⟩
    obtain ⟨first, address, rfl⟩ := List.exists_cons_of_ne_nil (ne_nil_of_find? hfind)
    rw [intercalate_address]
    by_cases haddress : address = []
    · subst haddress
      obtain rfl := Relation.path_of_first? hfind
      refine ⟨r, hfind, key, ?_, .inl (mem_getD_iff.mpr ⟨fields, hfields, hmem⟩)⟩
      rw [List.nil_append, List.intercalate_singleton]
    · rw [find?_cons first haddress] at hfind
      obtain ⟨s, hs, hbelow⟩ := Option.bind_eq_some_iff.mp hfind
      obtain rfl := Relation.path_of_first? hs
      exact ⟨s, hs, _, rfl, .inr ⟨address, r, fields, key, hbelow, hfields, hmem, rfl⟩⟩
  · rintro ⟨r, hfirst, key, rfl, hown | ⟨address, s, fields, key, hfind, hfields, hmem, rfl⟩⟩
    · obtain ⟨fields, hfields, hmem⟩ := mem_getD_iff.mp hown
      refine ⟨[r.path], r, fields, key, hfirst, hfields, hmem, ?_⟩
      rw [intercalate_address, List.nil_append, List.intercalate_singleton]
    · refine ⟨r.path :: address, s, fields, key, ?_, hfields, hmem, ?_⟩
      · rw [find?_cons _ (ne_nil_of_find? hfind), hfirst, Option.bind_some, hfind]
      · rw [intercalate_address]

theorem LedByFirst.first?_eq {relations : Population} {r : Relation} (h : LedByFirst relations)
    (hr : r ∈ relations) (hleaf : ¬ r.IsLeaf) : Relation.first? r.path relations = some r := by
  obtain ⟨before, s, after, rfl, hbefore, hs⟩ := exists_first (List.mem_map_of_mem hr)
  obtain ⟨-, hrest, -⟩ := List.pairwise_append.mp h
  rcases List.mem_append.mp hr with hr | hr
  · exact absurd rfl (hbefore r hr)
  · rcases List.mem_cons.mp hr with rfl | hr
    · exact Relation.first?_append after hbefore hs
    · exact absurd ((List.pairwise_cons.mp hrest).1 r hr hs.symm) hleaf

/-- One level of `mem_flat`. -/
theorem LedByFirst.mem_flat {relations : Population} (h : LedByFirst relations)
    (hcontent : ∀ r ∈ relations, ∀ key v,
      (key, v) ∈ r.content ↔ (key, v) ∈ r.projection.getD [] ∨ Shows r.children key v)
    {name : Text} {v : Value} : (name, v) ∈ flat relations ↔ relations.Shows name v := by
  rw [mem_flat_iff_content, shows_iff]
  constructor
  · rintro ⟨r, hr, key, hmem, rfl⟩
    have hleaf : ¬ r.IsLeaf := by
      intro hleaf
      rw [hleaf.content_eq_nil] at hmem
      cases hmem
    exact ⟨r, h.first?_eq hr hleaf, key, rfl, (hcontent r hr key v).mp hmem⟩
  · rintro ⟨r, hfirst, key, rfl, hshown⟩
    have hr := List.mem_of_find?_eq_some hfirst
    exact ⟨r, hr, key, (hcontent r hr key v).mpr hshown, rfl⟩

theorem mem_content {r : Relation} (h : r.Neat) (key : Text) (v : Value) :
    (key, v) ∈ r.content ↔ (key, v) ∈ r.projection.getD [] ∨ Shows r.children key v := by
  -- a neat relation has neat relations below it, so the hypothesis is there for each of them
  induction h generalizing key v with
  | mk _ _ _ hled _ ih =>
    rw [Relation.content, List.mem_append]
    exact or_congr Iff.rfl (hled.mem_flat ih)

/-- **The one document has the fields of the relations at the addresses.** -/
theorem mem_flat {relations : Population} (h : Neat relations) {name : Text} {v : Value} :
    (name, v) ∈ flat relations ↔ relations.Shows name v :=
  h.1.mem_flat fun r hr => mem_content (h.2 r hr)

end DocQuery.Population
