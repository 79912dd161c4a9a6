import DocQuery.Relation.Population

/-!
# The first relation of a name

At every level of a population the first relation of a name counts. This file says what that one is,
and what a call on it does to the relations around it.

* `NotNamed`, `exists_first`: the relations in front of the first one of a name, and those behind
  it.
* `changeFirst_append`, `changeFirst_of_notNamed`: what a call on it does.
* **`changeFirst_eq_self`**: a call that fails without a change leaves all relations as they are.
* `updateFirst?`, `updateFirst?_of_call`: the relations after a call, if it succeeds.
-/

namespace DocQuery

/-- The names of the relations at the top. -/
def Population.names (relations : Population) : List Text := relations.map Relation.path

@[simp]
theorem Population.names_append (relations others : Population) :
    names (relations ++ others) = names relations ++ names others :=
  List.map_append

@[simp]
theorem Population.names_cons (r : Relation) (relations : Population) :
    names (r :: relations) = r.path :: names relations := rfl

/-- No relation at the top has the name. -/
def Population.NotNamed (name : Text) (relations : Population) : Prop :=
  ∀ r ∈ relations, r.path ≠ name

open Population

theorem Population.notNamed_iff {name : Text} {relations : Population} :
    NotNamed name relations ↔ name ∉ relations.names := by
  simp [NotNamed, names]

/-- Some relation has a name, and one of them is the first. -/
theorem Population.exists_first {name : Text} {relations : Population}
    (h : name ∈ relations.names) :
    ∃ before r after, relations = before ++ r :: after ∧ NotNamed name before ∧ r.path = name := by
  induction relations with
  | nil => cases h
  | cons s relations ih =>
    by_cases hs : s.path = name
    · exact ⟨[], s, relations, rfl, fun _ hx => absurd hx List.not_mem_nil, hs⟩
    · have hrest : name ∈ Population.names relations :=
        (List.mem_cons.mp h).resolve_left fun heq => hs heq.symm
      obtain ⟨before, r, after, rfl, hbefore, hr⟩ := ih hrest
      refine ⟨s :: before, r, after, rfl, fun x hx => ?_, hr⟩
      rcases List.mem_cons.mp hx with rfl | hx
      · exact hs
      · exact hbefore x hx

namespace Relation

theorem path_of_first? {name : Text} {relations : List Relation} {r : Relation}
    (h : first? name relations = some r) : r.path = name := by
  simpa using List.find?_some h

theorem first?_append {name : Text} {before : List Relation} {r : Relation}
    (after : List Relation) (hbefore : NotNamed name before) (hr : r.path = name) :
    first? name (before ++ r :: after) = some r := by
  have hnone : before.find? (fun r => decide (r.path = name)) = none :=
    List.find?_eq_none.mpr fun x hx => by simpa using hbefore x hx
  rw [first?, List.find?_append, hnone]
  simp [hr]

theorem first?_of_notNamed {name : Text} {relations : List Relation}
    (h : NotNamed name relations) : first? name relations = none :=
  List.find?_eq_none.mpr fun r hr => by simpa using h r hr

/-! ## Calls on it -/

section Call

variable {α : Type} {name : Text} {call : Relation → α × Relation}

theorem changeFirst_append {before : List Relation} {r : Relation} (after : List Relation)
    (hbefore : NotNamed name before) (hr : r.path = name) :
    changeFirst name call (before ++ r :: after) =
      (some (call r).1, before ++ (call r).2 :: after) := by
  induction before with
  | nil => rw [List.nil_append, changeFirst, if_pos hr, List.nil_append]
  | cons s before ih =>
    have hs : s.path ≠ name := hbefore s List.mem_cons_self
    have hrest : NotNamed name before := fun x hx => hbefore x (List.mem_cons_of_mem _ hx)
    rw [List.cons_append, changeFirst, if_neg hs, ih hrest, List.cons_append]

theorem changeFirst_of_notNamed {relations : List Relation} (h : NotNamed name relations) :
    changeFirst name call relations = (none, relations) := by
  induction relations with
  | nil => rfl
  | cons s relations ih =>
    rw [changeFirst, if_neg (h s List.mem_cons_self),
      ih fun x hx => h x (List.mem_cons_of_mem _ hx)]

variable (name call) in
/-- Whether there is a result says whether a relation has the name. -/
theorem isSome_changeFirst (relations : List Relation) :
    (changeFirst name call relations).1.isSome = (first? name relations).isSome := by
  by_cases hname : name ∈ Population.names relations
  · obtain ⟨before, r, after, rfl, hbefore, hr⟩ := exists_first hname
    rw [changeFirst_append after hbefore hr, first?_append after hbefore hr]
    rfl
  · rw [changeFirst_of_notNamed (notNamed_iff.mpr hname),
      first?_of_notNamed (notNamed_iff.mpr hname)]
    rfl

/-- **A call that fails without a change leaves all relations as they are.** -/
theorem changeFirst_eq_self (Fails : α → Prop) (hcall : ∀ r, Fails (call r).1 → (call r).2 = r)
    {relations : List Relation}
    (h : ∀ result, (changeFirst name call relations).1 = some result → Fails result) :
    (changeFirst name call relations).2 = relations := by
  by_cases hname : name ∈ Population.names relations
  · obtain ⟨before, r, after, rfl, hbefore, hr⟩ := exists_first hname
    rw [changeFirst_append after hbefore hr] at h ⊢
    rw [hcall r (h _ rfl)]
  · rw [changeFirst_of_notNamed (notNamed_iff.mpr hname)]

end Call

/-! ## The relations after it -/

/-- Changes the first relation of a name, if there is one and the change succeeds. -/
def updateFirst? (name : Text) (change : Relation → Option Relation) :
    List Relation → Option (List Relation)
  | [] => none
  | r :: rest =>
    if r.path = name then (change r).map (· :: rest)
    else (updateFirst? name change rest).map (r :: ·)

theorem updateFirst?_append {name : Text} {change : Relation → Option Relation}
    {before : List Relation} {r : Relation} (after : List Relation) (hbefore : NotNamed name before)
    (hr : r.path = name) :
    updateFirst? name change (before ++ r :: after) =
      (change r).map fun r' => before ++ r' :: after := by
  induction before with
  | nil => simp [updateFirst?, hr]
  | cons s before ih =>
    have hs : s.path ≠ name := hbefore s List.mem_cons_self
    have hrest : NotNamed name before := fun x hx => hbefore x (List.mem_cons_of_mem _ hx)
    rw [List.cons_append, updateFirst?, if_neg hs, ih hrest, Option.map_map]
    rfl

theorem updateFirst?_eq_none {name : Text} {change : Relation → Option Relation}
    {relations : List Relation} (h : NotNamed name relations) :
    updateFirst? name change relations = none := by
  induction relations with
  | nil => rfl
  | cons s relations ih =>
    rw [updateFirst?, if_neg (h s List.mem_cons_self),
      ih fun x hx => h x (List.mem_cons_of_mem _ hx)]
    rfl

theorem exists_of_updateFirst? {name : Text} {change : Relation → Option Relation}
    {relations relations' : List Relation}
    (h : updateFirst? name change relations = some relations') :
    ∃ before r after r', relations = before ++ r :: after ∧ NotNamed name before ∧ r.path = name ∧
      change r = some r' ∧ relations' = before ++ r' :: after := by
  by_cases hname : name ∈ Population.names relations
  · obtain ⟨before, r, after, rfl, hbefore, hr⟩ := exists_first hname
    rw [updateFirst?_append after hbefore hr] at h
    obtain ⟨r', hr', rfl⟩ := Option.map_eq_some_iff.mp h
    exact ⟨before, r, after, r', rfl, hbefore, hr, hr', rfl⟩
  · rw [updateFirst?_eq_none (notNamed_iff.mpr hname)] at h
    cases h

/-- The relations after a call, if the call is made and succeeds. -/
theorem updateFirst?_of_call {α : Type} (succeeds : α → Bool) (name : Text)
    (call : Relation → α × Relation) (relations : List Relation) :
    updateFirst? name (fun r => if succeeds (call r).1 then some (call r).2 else none) relations =
      if (changeFirst name call relations).1.any succeeds
      then some (changeFirst name call relations).2 else none := by
  by_cases hname : name ∈ Population.names relations
  · obtain ⟨before, r, after, rfl, hbefore, hr⟩ := exists_first hname
    rw [updateFirst?_append after hbefore hr, changeFirst_append after hbefore hr, Option.any_some]
    cases succeeds (call r).1 <;> rfl
  · rw [updateFirst?_eq_none (notNamed_iff.mpr hname),
      changeFirst_of_notNamed (notNamed_iff.mpr hname)]
    rfl

end Relation

end DocQuery
