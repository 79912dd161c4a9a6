import DocQuery.Proofs.Dict.Last
import DocQuery.Proofs.Relation.Shape

/-!
# Fields shared out among relations

Fields that are set one after the other are shared out among the relations: each relation keeps
some of them and hands the others on. Which field goes where is told by the names of the relations,
and these stay as they are.

* `Population.setField`, `Relation.setField`: a field is set in the relation that owns it.
* `fieldBelow?`, `ownField?`: what a field is to a relation that it leads to, and the entry that it
  makes where no relation below is its own.
* **`foldl_setField_cons`**, **`foldl_setField_mk`**: a run over fields, relation by relation.
* **`foldl_setField_append_self`**: the same run once more changes nothing.
-/

namespace DocQuery

/-- A field by its names, and the value to set. -/
abbrev Field := List Text × Value

namespace Population

/-- Sets a field in the relation that owns it, if its first name leads to one. -/
def setField (relations : Population) : Field → Population
  | (name :: next :: rest, v) =>
    (Relation.updateFirst? name (fun r => some (projectPath v (next :: rest) r)) relations).getD
      relations
  | _ => relations

/-- What a field is to the first relation of a name, if it leads there. -/
def fieldBelow? (name : Text) : Field → Option Field
  | (first :: next :: rest, v) => if first = name then some (next :: rest, v) else none
  | _ => none

end Population

namespace Relation

/-- Sets a field in the relation that owns it, which is this one or one below it. -/
def setField (r : Relation) (field : Field) : Relation := Population.projectPath field.2 field.1 r

/-- The entry that a field makes in a relation, if it leads to none of those below, whose names are
given. -/
def ownField? (names : List Text) : Field → Option (Text × Value)
  | ([], _) => none
  | (first :: rest, v) =>
    if rest ≠ [] ∧ first ∈ names then none else some (['.'].intercalate (first :: rest), v)

/-- Sets entries of a projection, which is made where it is missing. -/
def setEntries (entries : List (Text × Value)) (projection : Option Document) : Option Document :=
  entries.foldl (fun p entry => some (Dict.insert entry.1 entry.2 (p.getD []))) projection

theorem setEntries_eq (entries : List (Text × Value)) (projection : Option Document) :
    setEntries entries projection =
      if entries = [] then projection else some (Dict.insertAll entries (projection.getD [])) := by
  induction entries generalizing projection with
  | nil => rfl
  | cons entry entries ih =>
    change setEntries entries (some (Dict.insert entry.1 entry.2 (projection.getD []))) = _
    rw [ih, if_neg (List.cons_ne_nil _ _)]
    split
    · rename_i hnil
      rw [hnil]
      rfl
    · rfl

theorem setEntries_append_self (entries : List (Text × Value)) :
    setEntries (entries ++ entries) none = setEntries entries none := by
  by_cases hentries : entries = []
  · rw [hentries, List.append_nil]
  · rw [setEntries_eq, setEntries_eq, if_neg hentries, if_neg (by simpa using hentries)]
    exact congrArg some (Dict.ofList_append_self entries)

end Relation

namespace Population

/-! ## One field -/

@[simp]
theorem setField_nil (field : Field) : setField [] field = [] := by
  rcases field with ⟨_ | ⟨name, _ | ⟨next, rest⟩⟩, v⟩ <;> rfl

/-- A field goes to the first relation of its first name. -/
theorem setField_cons (r : Relation) (relations : Population) (field : Field) :
    setField (r :: relations) field =
      match fieldBelow? r.path field with
      | some below => r.setField below :: relations
      | none => r :: setField relations field := by
  rcases field with ⟨_ | ⟨name, _ | ⟨next, rest⟩⟩, v⟩
  · rfl
  · rfl
  · rw [setField, Relation.updateFirst?, fieldBelow?]
    by_cases hname : r.path = name
    · rw [if_pos hname, if_pos hname.symm]
      rfl
    · rw [if_neg hname, if_neg (Ne.symm hname), setField]
      cases Relation.updateFirst? name _ relations <;> rfl

@[simp]
theorem names_setField (relations : Population) (field : Field) :
    (setField relations field).names = relations.names := by
  induction relations with
  | nil => rw [setField_nil]
  | cons r relations ih =>
    rw [setField_cons]
    split
    · rw [names_cons, names_cons, Relation.setField, path_projectPath]
    · rw [names_cons, names_cons, ih]

theorem setField_eq_self {relations : Population} {name : Text} {rest : List Text} (v : Value)
    (h : rest = [] ∨ name ∉ relations.names) : setField relations (name :: rest, v) = relations := by
  rcases rest with _ | ⟨next, rest⟩
  · rfl
  · rw [setField, Relation.updateFirst?_eq_none (notNamed_iff.mpr (h.resolve_left (by simp)))]
    rfl

end Population

/-- A relation keeps a field or hands it on. -/
theorem Relation.setField_mk (path : Text) (projection : Option Document) (children : Population)
    (field : Field) :
    setField (.mk path projection children) field =
      .mk path (setEntries (ownField? children.names field).toList projection)
        (Population.setField children field) := by
  obtain ⟨names, v⟩ := field
  rcases names with _ | ⟨name, rest⟩
  · rfl
  · by_cases hown : rest ≠ [] ∧ name ∈ Population.names children
    · obtain ⟨hrest, hname⟩ := hown
      obtain ⟨before, child, after, rfl, hbefore, hchild⟩ := Population.exists_first hname
      obtain ⟨next, rest, rfl⟩ := List.exists_cons_of_ne_nil hrest
      rw [setField, Population.projectPath_below v hrest path projection after hbefore hchild,
        ownField?, if_pos ⟨hrest, hname⟩, Population.setField,
        updateFirst?_append after hbefore hchild]
      rfl
    · have hfree : rest = [] ∨ name ∉ Population.names children := by
        by_cases hrest : rest = []
        · exact .inl hrest
        · exact .inr fun hname => hown ⟨hrest, hname⟩
      rw [ownField?, if_neg hown, Population.setField_eq_self v hfree]
      by_cases hrest : rest = []
      · rw [hrest, List.intercalate_singleton]
        rfl
      · have hname := Population.notNamed_iff.mpr (hfree.resolve_left hrest)
        rw [setField, Population.projectPath_here v hrest hname]
        rfl

/-! ## Fields one after the other -/

/-- **What a run over fields does to relations.** The first one has those that lead to it. -/
theorem Population.foldl_setField_cons (fields : List Field) (r : Relation)
    (relations : Population) :
    fields.foldl setField (r :: relations) =
      (fields.filterMap (fieldBelow? r.path)).foldl Relation.setField r ::
        (fields.filter fun field => (fieldBelow? r.path field).isNone).foldl setField relations := by
  induction fields generalizing r relations with
  | nil => rfl
  | cons field fields ih =>
    rw [List.foldl_cons, setField_cons]
    cases hbelow : fieldBelow? r.path field with
    | none =>
      rw [List.filterMap_cons_none hbelow, List.filter_cons_of_pos (by rw [hbelow]; rfl)]
      exact ih r (setField relations field)
    | some below =>
      have hpath : (r.setField below).path = r.path := path_projectPath ..
      rw [List.filterMap_cons_some hbelow, List.filter_cons_of_neg (by rw [hbelow]; simp)]
      exact (ih (r.setField below) relations).trans (by rw [hpath]; rfl)

/-- **What a run over fields does to a relation.** It keeps some of them, and the others go on. -/
theorem Relation.foldl_setField_mk (fields : List Field) (path : Text)
    (projection : Option Document) (children : Population) :
    fields.foldl setField (.mk path projection children) =
      .mk path (setEntries (fields.filterMap (ownField? children.names)) projection)
        (fields.foldl Population.setField children) := by
  induction fields generalizing projection children with
  | nil => rfl
  | cons field fields ih =>
    rw [List.foldl_cons, setField_mk, ih, Population.names_setField, List.foldl_cons]
    congr 1
    cases hown : ownField? children.names field with
    | none =>
      rw [List.filterMap_cons_none hown]
      rfl
    | some entry =>
      rw [List.filterMap_cons_some hown]
      rfl

@[simp]
theorem Population.foldl_setField_nil (fields : List Field) : fields.foldl setField [] = [] := by
  induction fields with
  | nil => rfl
  | cons field fields ih => rw [List.foldl_cons, setField_nil, ih]

/-! ## Fields set once more -/

mutual

theorem Relation.foldl_setField_append_self {r : Relation} (h : r.bare = r) (fields : List Field) :
    (fields ++ fields).foldl Relation.setField r = fields.foldl Relation.setField r := by
  cases r with
  | mk path projection children =>
    obtain ⟨-, hprojection, hchildren⟩ := Relation.mk.inj h
    rw [Relation.foldl_setField_mk, Relation.foldl_setField_mk, List.filterMap_append,
      ← hprojection, Relation.setEntries_append_self,
      Population.foldl_setField_append_self hchildren]

/-- **Fields that are set once more change nothing**, in relations that had no fields before. -/
theorem Population.foldl_setField_append_self {relations : Population}
    (h : relations.bare = relations) (fields : List Field) :
    (fields ++ fields).foldl Population.setField relations =
      fields.foldl Population.setField relations := by
  cases relations with
  | nil => rw [Population.foldl_setField_nil, Population.foldl_setField_nil]
  | cons r relations =>
    obtain ⟨hr, hrelations⟩ := List.cons.inj h
    rw [Population.foldl_setField_cons, Population.foldl_setField_cons, List.filterMap_append,
      List.filter_append, Relation.foldl_setField_append_self hr,
      Population.foldl_setField_append_self hrelations]

end

end DocQuery
