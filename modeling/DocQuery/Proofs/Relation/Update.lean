import DocQuery.Proofs.Relation.InPlace
import DocQuery.Proofs.Text.Split

/-!
# Changes to a population

Adding a relation and routing a field both walk down a path and change one relation; at every
level it is the first of its name. This file says once what such a change can do.

* `projectPath_induction`, `insertPath?_induction`: a walk ends at a relation or goes one name
  further down; a property of both is a property of the walk.
* `exists_of_route?`, `parse_induction`: the same for a routed field and for the population of a
  list of paths.
-/

namespace DocQuery.Population

/-! ## Fields -/

theorem projectPath_below (v : Value) {name : Text} {rest : List Text} (hrest : rest ≠ [])
    (path : Text) (projection : Option Document) {before : List Relation} {child : Relation}
    (after : List Relation) (hbefore : NotNamed name before) (hchild : child.path = name) :
    projectPath v (name :: rest) (.mk path projection (before ++ child :: after)) =
      .mk path projection (before ++ projectPath v rest child :: after) := by
  obtain ⟨next, rest, rfl⟩ := List.exists_cons_of_ne_nil hrest
  rw [projectPath, Relation.children, Relation.changeFirst_append after hbefore hchild]
  · rfl
  · exact fun h => by cases h

theorem projectPath_here (v : Value) {name : Text} {rest : List Text} (hrest : rest ≠ [])
    {r : Relation} (h : NotNamed name r.children) :
    projectPath v (name :: rest) r = r.project (['.'].intercalate (name :: rest)) v := by
  obtain ⟨next, rest, rfl⟩ := List.exists_cons_of_ne_nil hrest
  rw [projectPath, Relation.changeFirst_of_notNamed h]
  · cases r
    rfl
  · exact fun h => by cases h

/-- **What setting a field does.** It sets the field where no relation below has its first name,
or goes on with the other names in the first relation of that name. -/
theorem projectPath_induction (v : Value) {motive : List Text → Relation → Relation → Prop}
    (here : ∀ name rest r, (rest ≠ [] → NotNamed name r.children) →
      motive (name :: rest) r (r.project (['.'].intercalate (name :: rest)) v))
    (below : ∀ name rest path projection before child after, rest ≠ [] → NotNamed name before →
      child.path = name → motive rest child (projectPath v rest child) →
      motive (name :: rest) (.mk path projection (before ++ child :: after))
        (.mk path projection (before ++ projectPath v rest child :: after)))
    {names : List Text} (hnames : names ≠ []) (r : Relation) :
    motive names r (projectPath v names r) := by
  induction names generalizing r with
  | nil => exact absurd rfl hnames
  | cons name rest ih =>
    by_cases hrest : rest = []
    · subst hrest
      have hhere := here name [] r (absurd rfl)
      rwa [List.intercalate_singleton] at hhere
    · by_cases hname : name ∈ Population.names r.children
      · obtain ⟨path, projection, children⟩ := r
        obtain ⟨before, child, after, heq, hbefore, hchild⟩ := exists_first hname
        obtain rfl : children = before ++ child :: after := heq
        rw [projectPath_below v hrest path projection after hbefore hchild]
        exact below name rest path projection before child after hrest hbefore hchild
          (ih hrest child)
      · rw [projectPath_here v hrest (notNamed_iff.mpr hname)]
        exact here name rest r fun _ => notNamed_iff.mpr hname

@[simp]
theorem path_projectPath (v : Value) (names : List Text) (r : Relation) :
    (projectPath v names r).path = r.path := by
  by_cases hnames : names = []
  · rw [hnames, projectPath]
  · refine projectPath_induction v (motive := fun _ r r' => r'.path = r.path) ?_ ?_ hnames r
    · exact fun _ _ _ _ => rfl
    · exact fun _ _ _ _ _ _ _ _ _ _ _ => rfl

theorem exists_of_route? {field : Text} {v : Value} {relations relations' : Population}
    (h : route? field v relations = some relations') :
    ∃ name names before r after, field.splitOn '.' = name :: names ∧ names ≠ [] ∧
      relations = before ++ r :: after ∧ NotNamed name before ∧ r.path = name ∧
      relations' = before ++ projectPath v names r :: after := by
  obtain ⟨name, rest, hsplit⟩ := List.exists_cons_of_ne_nil (List.splitOn_ne_nil '.' field)
  by_cases hrest : rest = []
  · rw [route?_of_singleton (hrest ▸ hsplit)] at h
    cases h
  · rw [route?_of_splitOn hsplit hrest] at h
    obtain ⟨before, r, after, r', hrel, hbefore, hr, hr', hrel'⟩ :=
      Relation.exists_of_updateFirst? h
    cases hr'
    exact ⟨name, rest, before, r, after, hsplit, hrest, hrel, hbefore, hr, hrel'⟩

/-! ## Relations -/

/-- **What adding a relation does.** It appends a relation of the last name, or goes on with the
other names below the first relation of the first name. -/
theorem insertPath?_induction {motive : List Text → Population → Population → Prop}
    (append : ∀ name relations, motive [name] relations (relations ++ [.leaf name]))
    (below : ∀ name rest path projection before children children' after, rest ≠ [] →
      NotNamed name before → path = name → motive rest children children' →
      motive (name :: rest) (before ++ .mk path projection children :: after)
        (before ++ .mk path projection children' :: after))
    {names : List Text} {relations relations' : Population}
    (h : insertPath? names relations = some relations') : motive names relations relations' := by
  induction names generalizing relations relations' with
  | nil => cases h
  | cons name rest ih =>
    cases rest with
    | nil =>
      cases h
      exact append name relations
    | cons next rest =>
      rw [insertPath?] at h
      · obtain ⟨before, r, after, r', rfl, hbefore, hr, hr', rfl⟩ :=
          Relation.exists_of_updateFirst? h
        obtain ⟨children', hchildren, rfl⟩ := Option.map_eq_some_iff.mp hr'
        obtain ⟨path, projection, children⟩ := r
        exact below name (next :: rest) path projection before children children' after
          (List.cons_ne_nil _ _) hbefore hr (ih hchildren)
      · exact fun h => by cases h

theorem insertPath?_of_insert {path : Text} {relations relations' : Population}
    (h : insert path relations = .ok relations') :
    insertPath? (path.splitOn '.') relations = some relations' := by
  cases hinsert : insertPath? (path.splitOn '.') relations with
  | some relations'' =>
    rw [insert_of_insertPath? hinsert] at h
    exact congrArg some (Except.ok.inj h)
  | none =>
    rw [insert_of_insertPath?_eq_none hinsert] at h
    cases h

/-- **What a list of paths builds.** A property of the empty population that is kept when the
relation of a path with a character is added holds of the population of any list. -/
theorem parse_induction {motive : Population → Prop} (nil : motive [])
    (insert : ∀ path relations relations', path ≠ [] →
      insertPath? (path.splitOn '.') relations = some relations' → motive relations →
      motive relations')
    {value : Text} {tree : Population} (h : parse value = .ok tree) : motive tree := by
  have hpaths : ∀ path ∈ sortOn depth (entries value), path ≠ [] := by
    intro path hpath
    have hentry : path ∈ entries value := (sortOn_perm depth _).mem_iff.mp hpath
    rw [entries, List.mem_filter] at hentry
    simpa using hentry.2
  -- the run is generalized to start from any population that has the property
  have hrun : ∀ (paths : List Text) (relations : Population), (∀ path ∈ paths, path ≠ []) →
      motive relations →
      paths.foldlM (fun relations path => Population.insert path relations) relations = .ok tree →
      motive tree := by
    intro paths
    induction paths with
    | nil =>
      intro relations _ hmotive h
      cases h
      exact hmotive
    | cons path paths ih =>
      intro relations hpaths hmotive h
      rw [List.foldlM_cons] at h
      cases hstep : Population.insert path relations with
      | error e => rw [hstep] at h; cases h
      | ok relations' =>
        rw [hstep] at h
        exact ih relations' (fun p hp => hpaths p (List.mem_cons_of_mem _ hp))
          (insert path relations relations' (hpaths path List.mem_cons_self)
            (insertPath?_of_insert hstep) hmotive) h
  exact hrun _ _ hpaths nil h

end DocQuery.Population
