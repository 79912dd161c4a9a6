import DocQuery.Proofs.Relation.Update

/-!
# The shape of a population

* `Population.bare`: a population without its projections. What is left is its shape: the names,
  and which relation stands where.
* `bare_route?`, `names_route?`: routing a field keeps the shape.
* `bare_of_parse`: the population of a list of paths has no projections.
-/

namespace DocQuery

mutual

/-- A relation without projections. -/
def Relation.bare : Relation → Relation
  | .mk path _ children => .mk path none (Population.bare children)

/-- A population without projections. -/
def Population.bare : Population → Population
  | [] => []
  | r :: rest => r.bare :: Population.bare rest

end

@[simp]
theorem Relation.path_bare (r : Relation) : r.bare.path = r.path := by
  cases r
  rfl

namespace Population

theorem bare_eq_map (relations : Population) : bare relations = relations.map Relation.bare := by
  induction relations with
  | nil => rfl
  | cons r relations ih => rw [bare, ih, List.map_cons]

theorem bare_append (relations others : Population) :
    bare (relations ++ others) = bare relations ++ bare others := by
  simp [bare_eq_map]

@[simp]
theorem names_bare (relations : Population) : names (bare relations) = names relations := by
  simp [bare_eq_map, names]

/-! ## Routing -/

theorem bare_projectPath (v : Value) (names : List Text) (r : Relation) :
    (projectPath v names r).bare = r.bare := by
  by_cases hnames : names = []
  · rw [hnames, projectPath]
  · refine projectPath_induction v (motive := fun _ r r' => r'.bare = r.bare) ?_ ?_ hnames r
    · rintro name rest ⟨path, projection, children⟩ -
      rfl
    · intro name rest path projection before child after _ _ _ ih
      simp [Relation.bare, bare_append, bare, ih]

theorem bare_route? {field : Text} {v : Value} {relations relations' : Population}
    (h : route? field v relations = some relations') : bare relations' = bare relations := by
  obtain ⟨name, names, before, r, after, -, -, rfl, -, -, rfl⟩ := exists_of_route? h
  simp [bare_append, bare, bare_projectPath]

theorem names_route? {field : Text} {v : Value} {relations relations' : Population}
    (h : route? field v relations = some relations') : names relations' = names relations := by
  rw [← names_bare, bare_route? h, names_bare]

/-! ## Lists of paths -/

theorem bare_insertPath? {names : List Text} {relations relations' : Population}
    (h : insertPath? names relations = some relations') (hbare : bare relations = relations) :
    bare relations' = relations' := by
  revert hbare
  refine insertPath?_induction (motive := fun _ relations relations' =>
    bare relations = relations → bare relations' = relations') ?_ ?_ h
  · intro name relations hbare
    rw [bare_append, hbare]
    rfl
  · intro name rest path projection before children children' after _ _ _ ih hbare
    rw [bare_append, bare, Relation.bare] at hbare ⊢
    obtain ⟨hbefore, hrest⟩ := List.append_inj' hbare (by simp [bare_eq_map])
    obtain ⟨hr, hafter⟩ := List.cons.inj hrest
    obtain ⟨-, hprojection, hchildren⟩ := Relation.mk.inj hr
    rw [hbefore, hafter, ← hprojection, ih hchildren]

/-- **A list of paths asks for no fields.** -/
theorem bare_of_parse {value : Text} {tree : Population} (h : parse value = .ok tree) :
    bare tree = tree :=
  parse_induction (motive := fun tree => bare tree = tree) rfl
    (fun _ _ _ _ hinsert hbare => bare_insertPath? hinsert hbare) h

end Population

end DocQuery
