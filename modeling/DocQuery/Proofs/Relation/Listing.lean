import DocQuery.Proofs.Order.Reordering
import DocQuery.Proofs.Outcome
import DocQuery.Proofs.Relation.Branches

/-!
# What a list of paths says

The paths of a list are added by their numbers of dots, so the path above another one is there in
time wherever it stands in the list. What the list says does not depend on the order, but for the
order of relations that stand side by side.

* `Population.build`: adds paths in order.
* **`grounded_of_build`**, **`refused_of_build`**: which paths are added, and the first one that is
  not.
* `Listed`: what a list says about its population.
* **`Listed.eq`**, **`listed_of_parse`**: it tells the population, and it is true of the one that is
  made.
* **`parse_listing`**: when a list is accepted, what it says, and the error if it is refused.
-/

namespace DocQuery.Population

open Outcome

/-! ## Adding paths in order -/

/-- The population of some paths, which are added in order. -/
def build (paths : List Text) : Except QueryError Population :=
  paths.foldlM (fun relations path => insert path relations) []

/-- A path without a dot, or one for which the path above it is among some paths. -/
def Grounded (paths : List Text) (path : Text) : Prop :=
  ∀ parent, parent? path = some parent → parent ∈ paths

/-- The error of a path. It tells whether the first name of the path is among some paths. -/
def missing (paths : List Text) (path : Text) : QueryError :=
  if paths.contains (firstName path) then .missingSubRelation path else .missingRelation path

theorem Grounded.mono {paths others : List Text} {path : Text} (h : Grounded paths path)
    (hsub : paths ⊆ others) : Grounded others path :=
  fun parent hparent => hsub (h parent hparent)

theorem dot_mem_of_not_grounded {paths : List Text} {path : Text} (h : ¬ Grounded paths path) :
    '.' ∈ path := by
  by_contra hdot
  refine h fun parent hparent => ?_
  rw [parent?_of_not_mem hdot] at hparent
  cases hparent

theorem build_append (paths others : List Text) :
    build (paths ++ others) =
      build paths >>= others.foldlM fun relations path => insert path relations :=
  List.foldlM_append

theorem build_concat (paths : List Text) (path : Text) :
    build (paths ++ [path]) = build paths >>= insert path := by
  rw [build_append]
  simp

/-- If no path is refused, the calls add all paths. -/
theorem run_of_build {paths : List Text} {tree : Population} (h : build paths = .ok tree) :
    History.run paths = ⟨tree, paths⟩ := by
  induction paths using List.reverseRecOn generalizing tree with
  | nil =>
    cases h
    rfl
  | append_singleton paths path ih =>
    rw [build_concat] at h
    obtain ⟨relations, hpaths, hpath⟩ := bind_eq_ok.mp h
    rw [History.run_concat, ih hpaths, History.call_of_ok hpath]

theorem sound_of_build {paths : List Text} {tree : Population} (h : build paths = .ok tree) :
    History.Sound ⟨tree, paths⟩ :=
  run_of_build h ▸ History.branches_run paths

theorem exists_insert_of_build {paths : List Text} {tree : Population} (h : build paths = .ok tree)
    (path : Text) : (∃ relations, insert path tree = .ok relations) ↔ Grounded paths path :=
  (sound_of_build h).exists_insert_iff

/-- **Which paths are added.** Each has the path above it in front of it. -/
theorem grounded_of_build {before after : List Text} {path : Text} {tree : Population}
    (h : build (before ++ path :: after) = .ok tree) : Grounded before path := by
  rw [List.append_cons, build_append] at h
  obtain ⟨relations, hpath, -⟩ := bind_eq_ok.mp h
  rw [build_concat] at hpath
  obtain ⟨relations', hbefore, hinsert⟩ := bind_eq_ok.mp hpath
  exact (exists_insert_of_build hbefore path).mp ⟨relations, hinsert⟩

/-- **The first path that is not added.** -/
theorem refused_of_build {paths : List Text} {e : QueryError} (h : build paths = .error e) :
    ∃ before path after, paths = before ++ path :: after ∧
      (∃ tree, build before = .ok tree) ∧ ¬ Grounded before path ∧ e = missing before path := by
  induction paths using List.reverseRecOn with
  | nil => cases h
  | append_singleton paths path ih =>
    rw [build_concat] at h
    rcases bind_eq_error.mp h with hpaths | ⟨tree, hpaths, hpath⟩
    · obtain ⟨before, other, after, rfl, hbefore⟩ := ih hpaths
      exact ⟨before, other, after ++ [path], by simp, hbefore⟩
    · refine ⟨paths, path, [], rfl, ⟨tree, hpaths⟩, fun hgrounded => ?_, ?_⟩
      · obtain ⟨relations, hok⟩ := (exists_insert_of_build hpaths path).mpr hgrounded
        rw [hok] at hpath
        cases hpath
      · obtain ⟨head, rest, hhead, rfl, he⟩ := (sound_of_build hpaths).error_of_insert hpath
        rw [he, missing, firstName_append hhead]
        simp only [List.contains_iff_mem]

/-! ## Paths by their numbers of dots -/

/-- Where the paths are in order, those with fewer dots than one of them stand in front of it. -/
theorem mem_of_depth_lt {paths before after : List Text} {path other : Text}
    (h : sortOn depth paths = before ++ path :: after) (hlt : depth other < depth path) :
    other ∈ before ↔ other ∈ paths := by
  constructor
  · intro hmem
    rw [← (sortOn_perm depth paths).mem_iff, h]
    exact List.mem_append_left _ hmem
  · intro hmem
    exact (mem_or_le_of_sortOn_eq_append h hmem).resolve_right (Nat.not_le.mpr hlt)

theorem grounded_iff {paths before after : List Text} {path : Text}
    (h : sortOn depth paths = before ++ path :: after) :
    Grounded before path ↔ Grounded paths path :=
  forall₂_congr fun _ hparent => mem_of_depth_lt h (depth_lt_of_parent? hparent)

theorem missing_eq {paths before after : List Text} {path : Text}
    (h : sortOn depth paths = before ++ path :: after) (hpath : ¬ Grounded before path) :
    missing before path = missing paths path := by
  have hlt : depth (firstName path) < depth path := by
    rw [depth, depth, List.count_eq_zero.mpr (not_mem_firstName path)]
    exact List.count_pos_iff.mpr (dot_mem_of_not_grounded hpath)
  simp only [missing, List.contains_iff_mem, mem_of_depth_lt h hlt]

/-- A path is the first one of a list that is not grounded: in the order of the numbers of dots, and
of the places in the list where these are the same. -/
def FirstMissing (paths : List Text) (path : Text) : Prop :=
  ∃ before after, paths = before ++ path :: after ∧ ¬ Grounded paths path ∧
    (∀ other ∈ before, ¬ Grounded paths other → depth path < depth other) ∧
    ∀ other ∈ after, ¬ Grounded paths other → depth path ≤ depth other

theorem grounded_of_parse {value : Text} {tree : Population} (h : parse value = .ok tree) :
    ∀ path ∈ entries value, Grounded (entries value) path := by
  intro path hpath
  rw [← (sortOn_perm depth _).mem_iff] at hpath
  obtain ⟨before, after, hsort⟩ := List.append_of_mem hpath
  have hbuild : build (before ++ path :: after) = .ok tree := hsort ▸ h
  exact (grounded_iff hsort).mp (grounded_of_build hbuild)

/-- **The first path that is refused**, and its error. -/
theorem refused_of_parse {value : Text} {e : QueryError} (h : parse value = .error e) :
    ∃ path, FirstMissing (entries value) path ∧ e = missing (entries value) path := by
  obtain ⟨before, path, after, hsort, ⟨tree, hbuild⟩, hpath, rfl⟩ := refused_of_build h
  have hbefore : ∀ other ∈ before, ¬ ¬ Grounded (entries value) other := by
    intro other hother
    obtain ⟨front, back, rfl⟩ := List.append_of_mem hother
    refine Classical.not_not.mpr ((grounded_of_build hbuild).mono fun x hx => ?_)
    rw [← (sortOn_perm depth _).mem_iff, hsort]
    simp [hx]
  obtain ⟨front, back, heq, hfront, hback⟩ := exists_of_sortOn_eq_append hsort hbefore
  exact ⟨path, ⟨front, back, heq, fun hgrounded => hpath ((grounded_iff hsort).mpr hgrounded),
    hfront, hback⟩, missing_eq hsort hpath⟩

/-! ## The population of a list -/

/-- What a list of paths says about its population. -/
structure Listed (paths : List Text) (tree : Population) : Prop where
  /-- The relations at the top are the paths without a dot, in order. -/
  top : tree.names = paths.filter fun path => parent? path = none
  /-- The paths that lead to a relation are those of the list. -/
  found : ∀ path, (find? (path.splitOn '.') tree).isSome ↔ path ∈ paths
  /-- The relations below the one that a path leads to are the last names of the paths right below
  that path, in order. -/
  below : ∀ parent r, find? (parent.splitOn '.') tree = some r →
    names r.children = (paths.filter fun path => parent? path = some parent).map lastName
  /-- A relation with another one of its name in front of it has nothing below it. -/
  led : Led tree
  /-- No relation has a projection. -/
  bare : Population.bare tree = tree
  /-- The paths of all relations are those of the list, each as often as there. -/
  all : (Population.paths tree).Perm paths

/-- Of paths that stand side by side, sorting keeps the order. -/
theorem filter_parent?_sortOn (above : Option Text) (paths : List Text) :
    ((sortOn depth paths).filter fun path => parent? path = above) =
      paths.filter fun path => parent? path = above := by
  have hdepth : ∀ path, decide (parent? path = above) = true →
      depth path = (above.map fun parent => depth parent + 1).getD 0 := by
    intro path hpath
    rw [depth_eq, of_decide_eq_true hpath]
  exact sortOn_filter hdepth paths

theorem branches_of_parse {value : Text} {tree : Population} (h : parse value = .ok tree)
    (above : Option Text) : branches (addressOf above) tree =
      ((entries value).filter fun path => parent? path = above).map lastName := by
  have hsound : branches (addressOf above) tree =
      ((sortOn depth (entries value)).filter fun path =>
        addressOf (parent? path) = addressOf above).map lastName :=
    sound_of_build h (addressOf above)
  simp only [addressOf_inj] at hsound
  rw [hsound, filter_parent?_sortOn]

theorem map_lastName_filter (paths : List Text) :
    (paths.filter fun path => parent? path = none).map lastName =
      paths.filter fun path => parent? path = none := by
  refine (List.map_congr_left fun path hpath => ?_).trans (List.map_id _)
  have hnone := of_decide_eq_true (List.mem_filter.mp hpath).2
  exact lastName_of_not_mem (parent?_eq_none_iff.mp hnone)

/-- **What the list says is true.** -/
theorem listed_of_parse {value : Text} {tree : Population} (h : parse value = .ok tree) :
    Listed (entries value) tree where
  top := (branches_of_parse h none).trans (map_lastName_filter _)
  found path := by
    rw [← (sortOn_perm depth _).mem_iff]
    exact (sound_of_build h).isSome_find?_iff path
  below parent r hr := (branches_of_find? hr).symm.trans (branches_of_parse h (some parent))
  led := (neat_of_parse h).led
  bare := bare_of_parse h
  all := by
    have hpaths := History.paths_run (sortOn depth (entries value))
    rw [run_of_build h] at hpaths
    exact hpaths.trans (sortOn_perm depth _)

section Listed

variable {paths : List Text} {tree : Population}

theorem Listed.grounded (h : Listed paths tree) : ∀ path ∈ paths, Grounded paths path := by
  intro path hpath parent hparent
  rw [← h.found] at hpath ⊢
  rw [splitOn_eq_concat, hparent] at hpath
  exact isSome_of_isSome_concat (List.splitOn_ne_nil '.' parent) hpath

theorem Listed.branches_eq (h : Listed paths tree) (above : Option Text) :
    branches (addressOf above) tree =
      (paths.filter fun path => parent? path = above).map lastName := by
  cases above with
  | none => rw [addressOf, branches, h.top, map_lastName_filter]
  | some parent =>
    cases hfind : find? (parent.splitOn '.') tree with
    | some r => rw [addressOf, branches_of_find? hfind, h.below parent r hfind]
    | none =>
      have hparent : parent ∉ paths := by
        rw [← h.found, hfind]
        exact Bool.false_ne_true
      have hfilter : (paths.filter fun path => parent? path = some parent) = [] := by
        refine List.filter_eq_nil_iff.mpr fun path hpath heq => hparent ?_
        exact h.grounded path hpath parent (of_decide_eq_true heq)
      rw [addressOf, branches_of_find?_eq_none (List.splitOn_ne_nil '.' parent) hfind, hfilter]
      rfl

/-- What leads to a relation is a path of the list. -/
theorem Listed.exists_path (h : Listed paths tree) {address : List Text}
    (hfind : (find? address tree).isSome) : ∃ path ∈ paths, path.splitOn '.' = address := by
  induction address using List.reverseRecOn with
  | nil => cases hfind
  | append_singleton address name ih =>
    have habove : ∃ above, addressOf above = address := by
      by_cases haddress : address = []
      · exact ⟨none, haddress.symm⟩
      · obtain ⟨parent, -, hparent⟩ := ih (isSome_of_isSome_concat haddress hfind)
        exact ⟨some parent, hparent⟩
    obtain ⟨above, rfl⟩ := habove
    rw [isSome_find?_iff, h.branches_eq] at hfind
    obtain ⟨path, hpath, rfl⟩ := List.mem_map.mp hfind
    obtain ⟨hmem, hparent⟩ := List.mem_filter.mp hpath
    exact ⟨path, hmem, by rw [splitOn_eq_concat, of_decide_eq_true hparent]⟩

theorem Listed.sound (h : Listed paths tree) : History.Sound ⟨tree, paths⟩ := by
  intro address
  change branches address tree = (paths.filter fun path => addressOf (parent? path) = address).map
    lastName
  by_cases habove : ∃ above, addressOf above = address
  · obtain ⟨above, rfl⟩ := habove
    simp only [addressOf_inj, h.branches_eq]
  · -- neither a relation of the population nor a path of the list has this address
    have hnone : find? address tree = none := by
      rw [← Option.not_isSome_iff_eq_none]
      intro hsome
      obtain ⟨path, -, hpath⟩ := h.exists_path hsome
      exact habove ⟨some path, hpath⟩
    have hfilter : (paths.filter fun path => addressOf (parent? path) = address) = [] :=
      List.filter_eq_nil_iff.mpr fun path _ heq => habove ⟨parent? path, of_decide_eq_true heq⟩
    rw [branches_of_find?_eq_none (fun hnil => habove ⟨none, hnil.symm⟩) hnone, hfilter]
    rfl

/-- **What a list says tells the population.** -/
theorem Listed.eq {other : Population} (h : Listed paths tree) (h' : Listed paths other) :
    tree = other :=
  h.led.eq_of_branches h'.led h.bare h'.bare fun address =>
    (h.sound address).trans (h'.sound address).symm

/-- A list says the same if paths that do not stand side by side change places. -/
theorem Listed.reorder {paths' : List Text} (h : Listed paths tree)
    (horder : Reordering (fun path other => parent? path = parent? other) paths paths') :
    Listed paths' tree := by
  have hfilter : ∀ above, (paths'.filter fun path => parent? path = above) =
      paths.filter fun path => parent? path = above := fun above =>
    horder.filter_eq fun a b ha hb => (of_decide_eq_true ha).trans (of_decide_eq_true hb).symm
  exact {
    top := by rw [hfilter, h.top]
    found := fun path => by rw [horder.mem_iff, h.found]
    below := fun parent r hr => by rw [hfilter, h.below parent r hr]
    led := h.led
    bare := h.bare
    all := h.all.trans horder.perm.symm }

end Listed

/-! ## When a list is accepted -/

theorem exists_parse_iff {value : Text} :
    (∃ tree, parse value = .ok tree) ↔
      ∀ path ∈ entries value, Grounded (entries value) path := by
  refine ⟨fun ⟨tree, htree⟩ => grounded_of_parse htree, fun hgrounded => ?_⟩
  cases hparse : parse value with
  | ok tree => exact ⟨tree, rfl⟩
  | error e =>
    obtain ⟨path, ⟨before, after, heq, hpath, -⟩, -⟩ := refused_of_parse hparse
    exact absurd (hgrounded path (by simp [heq])) hpath

theorem parse_eq_ok_iff {value : Text} {tree : Population} :
    parse value = .ok tree ↔ Listed (entries value) tree := by
  refine ⟨listed_of_parse, fun h => ?_⟩
  obtain ⟨other, hother⟩ := exists_parse_iff.mpr h.grounded
  rw [hother, (listed_of_parse hother).eq h]

/-- **What a list of paths says.** A list is accepted just if the path above each of its paths is
also one of them, wherever it stands. What it then says tells the population: the relations at the
top are the paths without a dot, those below a relation are the paths right below its path, both in
the order of the list, and a relation that has another one of its name in front of it has nothing
below it. If the list is refused, the error is that of the first path without the path above it, in
the order of the numbers of dots and then of the places in the list. So every reordering of a list is
accepted or refused alike, and gives the same population if paths right below the same path stay in
order. -/
theorem parse_listing (value : Text) :
    ((∃ tree, parse value = .ok tree) ↔
        ∀ path ∈ entries value, Grounded (entries value) path) ∧
      (∀ tree, parse value = .ok tree ↔ Listed (entries value) tree) ∧
      (∀ e, parse value = .error e →
        ∃ path, FirstMissing (entries value) path ∧ e = missing (entries value) path) ∧
      ∀ value',
        ((entries value').Perm (entries value) →
          ((∃ tree, parse value' = .ok tree) ↔ ∃ tree, parse value = .ok tree)) ∧
        (Reordering (fun path other => parent? path = parent? other) (entries value)
            (entries value') →
          ∀ tree, parse value = .ok tree → parse value' = .ok tree) := by
  refine ⟨exists_parse_iff, fun tree => parse_eq_ok_iff, fun e => refused_of_parse,
    fun value' => ⟨fun hperm => ?_, fun horder tree htree => ?_⟩⟩
  · rw [exists_parse_iff, exists_parse_iff]
    simp only [Grounded, hperm.mem_iff]
  · exact parse_eq_ok_iff.mpr ((listed_of_parse htree).reorder horder)

/-- A list in which paths stand in front of the paths above them and one stands twice. -/
def deepFirst : Text := "user..b,pet,user,user.,user,user.a".toList

/-- Its population. -/
def deepFirstTree : Population := [
  .leaf "pet".toList,
  .mk "user".toList none [.mk [] none [.leaf "b".toList], .leaf "a".toList],
  .leaf "user".toList]

theorem parse_listing_deepFirst :
    Listed (entries deepFirst) deepFirstTree ∧
      parse "pet,user..b,user,user.,user,user.a".toList = .ok deepFirstTree ∧
      ∃ path, FirstMissing (entries "pet.toy.a,user,user.a.b,pet.toy".toList) path ∧
        .missingRelation "pet.toy".toList =
          missing (entries "pet.toy.a,user,user.a.b,pet.toy".toList) path := by
  obtain ⟨-, hlisted, -, hreorder⟩ := parse_listing deepFirst
  obtain ⟨-, -, hrefused, -⟩ := parse_listing "pet.toy.a,user,user.a.b,pet.toy".toList
  have hparse : parse deepFirst = .ok deepFirstTree := rfl
  refine ⟨(hlisted deepFirstTree).mp hparse, ?_, hrefused _ rfl⟩
  refine (hreorder _).2 ?_ deepFirstTree hparse
  exact Reordering.swap_front (a := "user..b".toList) (b := "pet".toList) (by decide)
    (["user", "user.", "user", "user.a"].map String.toList)

end DocQuery.Population
