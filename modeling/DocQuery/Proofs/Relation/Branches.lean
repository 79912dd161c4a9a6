import DocQuery.Proofs.Relation.Insertion

/-!
# What tells a population

* `Population.paths`: the paths of all relations, from the top.
* **`paths_insert`**: adding a relation adds its path.
* `Led`: of the relations of one name, all but the first are leaves, at every address.
* **`Led.eq_of_branches`**: such a population without projections is told by the names at the
  addresses.
-/

namespace DocQuery

mutual

/-- The paths of a relation and of those below it. -/
def Relation.paths : Relation → List Text
  | .mk path _ children => path :: (Population.paths children).map fun rest => path ++ '.' :: rest

/-- The paths of all relations, from the top. -/
def Population.paths : Population → List Text
  | [] => []
  | r :: rest => r.paths ++ Population.paths rest

end

/-- What holds of a relation if it holds of those below it, holds of all relations. -/
theorem Relation.induction {motive : Relation → Prop}
    (mk : ∀ path projection children, (∀ c ∈ children, motive c) →
      motive (.mk path projection children)) (r : Relation) : motive r :=
  Relation.rec (motive_1 := motive) (motive_2 := fun children => ∀ c ∈ children, motive c) mk
    (fun _ hc => absurd hc List.not_mem_nil)
    (fun _ _ hr hrest => List.forall_mem_cons.mpr ⟨hr, hrest⟩) r

namespace Population

/-! ## Paths -/

theorem paths_append (relations others : Population) :
    paths (relations ++ others) = paths relations ++ paths others := by
  induction relations with
  | nil => rfl
  | cons r relations ih => rw [List.cons_append, paths, paths, ih, List.append_assoc]

theorem paths_grows {name : Text} {address : List Text} {relations relations' : Population}
    (h : Grows name address relations relations') :
    (paths relations').Perm (['.'].intercalate (address ++ [name]) :: paths relations) := by
  induction h with
  | here relations =>
    rw [paths_append, List.nil_append, List.intercalate_singleton]
    exact List.perm_append_singleton name (paths relations)
  | @deeper first address projection before children children' after _ _ ih =>
    have hbelow : (Relation.mk first projection children').paths.Perm
        (['.'].intercalate ((first :: address) ++ [name]) ::
          (Relation.mk first projection children).paths) := by
      rw [Relation.paths, Relation.paths, intercalate_address]
      exact ((ih.map _).cons first).trans (.swap ..)
    rw [paths_append, paths_append, paths, paths]
    exact ((hbelow.append_right _).append_left _).trans List.perm_middle

/-- **Adding a relation adds its path.** -/
theorem paths_insert {path : Text} {relations relations' : Population}
    (h : insert path relations = .ok relations') :
    (paths relations').Perm (path :: paths relations) := by
  have hpaths := paths_grows (grows_of_insert h)
  rwa [← splitOn_eq_concat, List.intercalate_splitOn] at hpaths

theorem History.paths_run (calls : List Text) :
    (paths (run calls).relations).Perm (run calls).added := by
  induction calls using List.reverseRecOn with
  | nil => exact .nil
  | append_singleton calls path ih =>
    rw [run_concat]
    cases hinsert : insert path (run calls).relations with
    | error e => rwa [call_of_error hinsert]
    | ok relations =>
      rw [call_of_ok hinsert]
      exact ((paths_insert hinsert).trans (ih.cons path)).trans
        (List.perm_append_singleton path _).symm

/-! ## Names -/

theorem branches_of_find?_eq_none {address : List Text} {relations : Population}
    (haddress : address ≠ []) (h : find? address relations = none) :
    branches address relations = [] := by
  induction address generalizing relations with
  | nil => exact absurd rfl haddress
  | cons name address ih =>
    rw [branches]
    cases hfirst : Relation.first? name relations with
    | none => rfl
    | some r =>
      by_cases hrest : address = []
      · subst hrest
        have hfound : find? [name] relations = some r := hfirst
        rw [hfound] at h
        cases h
      · rw [find?_cons name hrest, hfirst] at h
        exact ih hrest h

/-- A relation that is found stands at the top or below one that is found. -/
theorem isSome_of_isSome_concat {address : List Text} {name : Text} {relations : Population}
    (haddress : address ≠ []) (h : (find? (address ++ [name]) relations).isSome) :
    (find? address relations).isSome := by
  rw [isSome_find?_iff] at h
  by_contra hnone
  rw [branches_of_find?_eq_none haddress (Option.not_isSome_iff_eq_none.mp hnone)] at h
  cases h

/-- At every address, of the relations of one name all but the first are leaves. -/
structure Led (relations : Population) : Prop where
  top : LedByFirst relations
  below : ∀ address r, find? address relations = some r → LedByFirst r.children

theorem Led.of_first? {relations : Population} (h : Led relations) {name : Text} {r : Relation}
    (hr : Relation.first? name relations = some r) : Led r.children where
  top := h.below [name] r hr
  below address s hs := by
    refine h.below (name :: address) s ?_
    rw [find?_cons name (ne_nil_of_find? hs), hr, Option.bind_some, hs]

theorem Neat.of_find? {relations : Population} (h : Neat relations) {address : List Text}
    {r : Relation} (hr : find? address relations = some r) : r.Neat := by
  induction address generalizing relations with
  | nil => cases hr
  | cons name address ih =>
    by_cases haddress : address = []
    · subst haddress
      exact h.2 r (List.mem_of_find?_eq_some hr)
    · rw [find?_cons name haddress] at hr
      obtain ⟨s, hfirst, hbelow⟩ := Option.bind_eq_some_iff.mp hr
      have hs := h.2 s (List.mem_of_find?_eq_some hfirst)
      cases hs with
      | mk _ _ _ hled hchildren => exact ih ⟨hled, hchildren⟩ hbelow

theorem Neat.led {relations : Population} (h : Neat relations) : Led relations where
  top := h.1
  below address r hr := by
    cases h.of_find? hr with
    | mk _ _ _ hled _ => exact hled

/-- If the first relations of every name are the same, so are all of them. -/
theorem LedByFirst.eq_of_first? {relations others : Population} (h : LedByFirst relations)
    (h' : LedByFirst others) (hnames : relations.names = others.names)
    (hfirst : ∀ r s, Relation.first? r.path relations = some r →
      Relation.first? r.path others = some s → r = s) : relations = others := by
  induction relations using List.reverseRecOn generalizing others with
  | nil => exact (List.map_eq_nil_iff.mp hnames.symm).symm
  | append_singleton relations r ih =>
    rw [names_append] at hnames
    obtain ⟨others, last, rfl, hinit, hlast⟩ := List.map_eq_append_iff.mp hnames.symm
    obtain ⟨s, rfl, hpath⟩ := List.map_eq_singleton_iff.mp hlast
    obtain ⟨hled, -, hlater⟩ := List.pairwise_append.mp h
    obtain ⟨hled', -, hlater'⟩ := List.pairwise_append.mp h'
    have hsame : relations = others := by
      refine ih hled hled' hinit.symm fun x y hx hy => hfirst x y ?_ ?_
      · rw [first?_concat, hx, Option.some_or]
      · rw [first?_concat, hy, Option.some_or]
    subst hsame
    by_cases hmem : r.path ∈ names relations
    · -- neither of the last ones is the first of its name
      obtain ⟨x, hx, hxpath⟩ := List.mem_map.mp hmem
      have hr : r.IsLeaf := hlater x hx r List.mem_cons_self hxpath.symm
      have hs : s.IsLeaf := hlater' x hx s List.mem_cons_self (hpath.trans hxpath.symm)
      rw [hr, hs, hpath]
    · have hnone : Relation.first? r.path relations = none := by
        rw [← Option.not_isSome_iff_eq_none]
        exact fun hsome => hmem (mem_names_iff.mpr hsome)
      rw [hfirst r s]
      · rw [first?_concat, hnone, if_pos rfl, Option.none_or]
      · rw [first?_concat, hnone, if_pos hpath, Option.none_or]

/-- One level of `Led.eq_of_branches`. -/
theorem LedByFirst.eq_of_branches {relations others : Population} (h : LedByFirst relations)
    (h' : LedByFirst others)
    (hbranches : ∀ address, branches address relations = branches address others)
    (hbelow : ∀ r s, Relation.first? r.path relations = some r →
      Relation.first? r.path others = some s →
      (∀ address, branches address r.children = branches address s.children) → r = s) :
    relations = others := by
  refine h.eq_of_first? h' (hbranches []) fun r s hr hs => hbelow r s hr hs fun address => ?_
  have haddress := hbranches (r.path :: address)
  rwa [branches, branches, hr, hs] at haddress

theorem bare_of_mem {relations : Population} (h : bare relations = relations) {r : Relation}
    (hr : r ∈ relations) : r.bare = r := by
  rw [bare_eq_map] at h
  exact List.map_inj_left.mp (h.trans (List.map_id relations).symm) r hr

theorem eq_of_bare {path : Text} {projection : Option Document} {children : Population}
    (h : (Relation.mk path projection children).bare = .mk path projection children) :
    projection = none ∧ bare children = children := by
  rw [Relation.bare] at h
  obtain ⟨-, hprojection, hchildren⟩ := Relation.mk.inj h
  exact ⟨hprojection.symm, hchildren⟩

theorem eq_of_branches (r : Relation) : ∀ s : Relation, r.path = s.path →
    r.bare = r → s.bare = s → Led r.children → Led s.children →
    (∀ address, branches address r.children = branches address s.children) → r = s := by
  induction r using Relation.induction with
  | mk path projection children ih =>
    rintro ⟨path', projection', others⟩ hpath hbare hbare' hled hled' hbranches
    obtain rfl : path = path' := hpath
    obtain ⟨rfl, hchildren⟩ := eq_of_bare hbare
    obtain ⟨rfl, hothers⟩ := eq_of_bare hbare'
    have hsame : children = others := by
      refine hled.top.eq_of_branches hled'.top hbranches fun r s hr hs hbelow => ?_
      have hr' := List.mem_of_find?_eq_some hr
      exact ih r hr' s (Relation.path_of_first? hs).symm (bare_of_mem hchildren hr')
        (bare_of_mem hothers (List.mem_of_find?_eq_some hs)) (hled.of_first? hr)
        (hled'.of_first? hs) hbelow
    rw [hsame]

/-- **What tells a population.** Without projections, it is told by the names at the addresses if of
the relations of one name all but the first are leaves. -/
theorem Led.eq_of_branches {relations others : Population} (h : Led relations) (h' : Led others)
    (hbare : bare relations = relations) (hbare' : bare others = others)
    (hbranches : ∀ address, branches address relations = branches address others) :
    relations = others := by
  -- the two populations stand below relations of one name
  have hsame : Relation.mk [] none relations = Relation.mk [] none others := by
    refine Population.eq_of_branches _ _ rfl ?_ ?_ h h' hbranches
    · rw [Relation.bare, hbare]
    · rw [Relation.bare, hbare']
  exact (Relation.mk.inj hsame).2.2

end Population

end DocQuery
