import DocQuery.Proofs.Text.Split
import DocQuery.Relation.Population
import Mathlib.Data.List.DropRight

/-!
# Paths

A path is told apart at its last dot: before it stands the path of the relation above, and behind it
the name.

* `Population.parent?`, `lastName`: the two parts of a path.
* `firstName`: what stands before its first dot.
* `path_cases`: a path is a name, or it is made of these two.
* `addressOf`, **`splitOn_eq_concat`**: the names of a path are those of the path above and the last
  name.
* `depth_eq`, `depth_lt_of_parent?`: the path above has one dot fewer.
-/

namespace DocQuery.Population

/-- What stands before the last dot of a path. -/
def parent? (path : Text) : Option Text :=
  if '.' ∈ path then some (path.rdropWhile (· ≠ '.')).dropLast else none

/-- What stands behind the last dot of a path, or all of it. -/
def lastName (path : Text) : Text := path.rtakeWhile (· ≠ '.')

/-- What stands before the first dot of a path, or all of it. -/
def firstName (path : Text) : Text := path.takeWhile (· ≠ '.')

/-- The names of a path, or none for the top. -/
def addressOf : Option Text → List Text
  | none => []
  | some path => path.splitOn '.'

theorem parent?_of_not_mem {path : Text} (h : '.' ∉ path) : parent? path = none := if_neg h

theorem ne_dot_of_mem {name : Text} (h : '.' ∉ name) : ∀ c ∈ name, decide (c ≠ '.') = true :=
  fun _ hc => decide_eq_true fun heq => h (heq ▸ hc)

theorem lastName_of_not_mem {path : Text} (h : '.' ∉ path) : lastName path = path :=
  List.rtakeWhile_eq_self_iff.mpr (ne_dot_of_mem h)

theorem reverse_append_dot (parent name : Text) :
    (parent ++ '.' :: name).reverse = name.reverse ++ '.' :: parent.reverse := by
  simp

section Dotted

variable {parent name : Text} (hname : '.' ∉ name)

include hname

theorem ne_dot_of_mem_reverse : ∀ c ∈ name.reverse, decide (c ≠ '.') = true :=
  fun c hc => ne_dot_of_mem hname c (List.mem_reverse.mp hc)

theorem parent?_append : parent? (parent ++ '.' :: name) = some parent := by
  rw [parent?, if_pos (by simp), List.rdropWhile, reverse_append_dot,
    List.dropWhile_append_of_pos (ne_dot_of_mem_reverse hname),
    List.dropWhile_cons_of_neg (by simp), List.reverse_cons, List.dropLast_concat,
    List.reverse_reverse]

theorem lastName_append : lastName (parent ++ '.' :: name) = name := by
  rw [lastName, List.rtakeWhile, reverse_append_dot,
    List.takeWhile_append_of_pos (ne_dot_of_mem_reverse hname),
    List.takeWhile_cons_of_neg (by simp), List.append_nil, List.reverse_reverse]

theorem firstName_append (rest : Text) : firstName (name ++ '.' :: rest) = name := by
  rw [firstName, List.takeWhile_append_of_pos (ne_dot_of_mem hname),
    List.takeWhile_cons_of_neg (by simp), List.append_nil]

end Dotted

theorem not_mem_firstName (path : Text) : '.' ∉ firstName path :=
  fun hmem => by simpa using List.mem_takeWhile_imp hmem

/-- A path is a name, or the path above, a dot and a name. -/
theorem path_cases (path : Text) :
    '.' ∉ path ∨ ∃ parent name, '.' ∉ name ∧ path = parent ++ '.' :: name := by
  by_cases h : '.' ∈ path
  · obtain ⟨name, rest, heq, hname⟩ := List.eq_append_cons_of_mem (List.mem_reverse.mpr h)
    refine .inr ⟨rest.reverse, name.reverse, fun hmem => hname (List.mem_reverse.mp hmem), ?_⟩
    rw [← List.reverse_reverse path, heq]
    simp
  · exact .inl h

theorem not_mem_lastName (path : Text) : '.' ∉ lastName path := by
  rcases path_cases path with hpath | ⟨parent, name, hname, rfl⟩
  · rwa [lastName_of_not_mem hpath]
  · rwa [lastName_append hname]

theorem parent?_eq_some_iff {path parent : Text} :
    parent? path = some parent ↔ ∃ name, '.' ∉ name ∧ path = parent ++ '.' :: name := by
  constructor
  · intro h
    rcases path_cases path with hpath | ⟨above, name, hname, rfl⟩
    · rw [parent?_of_not_mem hpath] at h
      cases h
    · rw [parent?_append hname] at h
      cases h
      exact ⟨name, hname, rfl⟩
  · rintro ⟨name, hname, rfl⟩
    exact parent?_append hname

theorem parent?_eq_none_iff {path : Text} : parent? path = none ↔ '.' ∉ path := by
  rw [parent?]
  split <;> simp_all

/-! ## Addresses -/

theorem splitOn_inj {path other : Text} (h : path.splitOn '.' = other.splitOn '.') :
    path = other := by
  have hpath : ['.'].intercalate (path.splitOn '.') = path := List.intercalate_splitOn '.'
  rw [← hpath, h, List.intercalate_splitOn]

/-- Different paths lead to different addresses, and none of them to the top. -/
theorem addressOf_inj {path? other? : Option Text} :
    addressOf path? = addressOf other? ↔ path? = other? := by
  refine ⟨fun h => ?_, congrArg addressOf⟩
  cases path? with
  | none =>
    cases other? with
    | none => rfl
    | some other => exact absurd h.symm (List.splitOn_ne_nil '.' other)
  | some path =>
    cases other? with
    | none => exact absurd h (List.splitOn_ne_nil '.' path)
    | some other => rw [splitOn_inj h]

/-- **The names of a path** are those that lead to the relation above, and its last name. -/
theorem splitOn_eq_concat (path : Text) :
    path.splitOn '.' = addressOf (parent? path) ++ [lastName path] := by
  rcases path_cases path with hpath | ⟨parent, name, hname, rfl⟩
  · rw [parent?_of_not_mem hpath, lastName_of_not_mem hpath, List.splitOn_eq_singleton hpath]
    rfl
  · rw [parent?_append hname, lastName_append hname, List.splitOn_append_cons_self,
      List.splitOn_eq_singleton hname]
    rfl

theorem depth_eq (path : Text) :
    depth path = ((parent? path).map fun parent => depth parent + 1).getD 0 := by
  rcases path_cases path with hpath | ⟨parent, name, hname, rfl⟩
  · rw [parent?_of_not_mem hpath]
    exact List.count_eq_zero.mpr hpath
  · rw [parent?_append hname, depth, List.count_append, List.count_cons_self,
      List.count_eq_zero.mpr hname]
    rfl

theorem depth_lt_of_parent? {path parent : Text} (h : parent? path = some parent) :
    depth parent < depth path := by
  rw [depth_eq path, h]
  exact Nat.lt_succ_self _

end DocQuery.Population
