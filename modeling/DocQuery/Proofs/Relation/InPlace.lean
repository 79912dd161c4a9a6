import DocQuery.Proofs.Outcome
import DocQuery.Proofs.Relation.First

/-!
# Calls that change a population in place

A call that adds a relation or routes a field walks down a path and changes a relation there. It can
fail at any name of the path, and comes back with the population whether it does or not.

* **`attach_eq_self`**, **`insertInPlace_eq_self`**, **`routeInPlace_eq_self`**: a call that fails
  has changed nothing.
* `insertPath?`, **`insert_of_insertPath?`**, **`route?_of_splitOn`**: the population after a call
  that succeeds, told without the one after a call that fails.
-/

namespace DocQuery.Population

open DocQuery.Relation Outcome

/-! ## Adding a relation -/

theorem attach_cons (name : Text) {rest : List Text} (hrest : rest ≠ []) (r : Relation) :
    attach (name :: rest) r =
      ((changeFirst name (attach rest) r.children).1.getD false,
        r.withChildren (changeFirst name (attach rest) r.children).2) := by
  obtain ⟨next, rest, rfl⟩ := List.exists_cons_of_ne_nil hrest
  rw [attach]
  exact fun heq => by cases heq

/-- **A relation that is not added leaves the one above as it is.** -/
theorem attach_eq_self {names : List Text} {r : Relation} (h : (attach names r).1 = false) :
    (attach names r).2 = r := by
  induction names generalizing r with
  | nil => rfl
  | cons name rest ih =>
    by_cases hrest : rest = []
    · subst hrest
      cases h
    · rw [attach_cons name hrest] at h ⊢
      have hsame : (changeFirst name (attach rest) r.children).2 = r.children := by
        refine changeFirst_eq_self (· = false) (fun child => ih) fun result hresult => ?_
        rwa [hresult] at h
      rw [hsame]
      cases r
      rfl

theorem insertInPlace_of_splitOn {path name : Text} {rest : List Text}
    (hsplit : path.splitOn '.' = name :: rest) (hrest : rest ≠ []) (relations : Population) :
    insertInPlace path relations =
      (attached path (changeFirst name (attach rest) relations).1,
        (changeFirst name (attach rest) relations).2) := by
  obtain ⟨next, rest, rfl⟩ := List.exists_cons_of_ne_nil hrest
  rw [insertInPlace, hsplit]

/-- **A path that is refused leaves the population as it is.** -/
theorem insertInPlace_eq_self {path : Text} {relations : Population} {e : QueryError}
    (h : (insertInPlace path relations).1 = .error e) :
    (insertInPlace path relations).2 = relations := by
  obtain ⟨name, rest, hsplit⟩ := List.exists_cons_of_ne_nil (List.splitOn_ne_nil '.' path)
  by_cases hrest : rest = []
  · rw [insertInPlace, hsplit, hrest] at h
    cases h
  · rw [insertInPlace_of_splitOn hsplit hrest] at h ⊢
    refine changeFirst_eq_self (· = false) (fun child => attach_eq_self) ?_
    rintro (_ | _) hresult
    · rfl
    · rw [hresult] at h
      cases h

theorem insert_eq_map (path : Text) (relations : Population) :
    insert path relations =
      (insertInPlace path relations).1.map fun _ => (insertInPlace path relations).2 := rfl

theorem insertInPlace_of_ok {path : Text} {relations relations' : Population}
    (h : insert path relations = .ok relations') :
    insertInPlace path relations = (.ok (), relations') := by
  obtain ⟨_, hadded, heq⟩ := map_eq_ok.mp ((insert_eq_map path relations).symm.trans h)
  exact Prod.ext hadded heq

theorem insertInPlace_of_error {path : Text} {relations : Population} {e : QueryError}
    (h : insert path relations = .error e) :
    insertInPlace path relations = (.error e, relations) := by
  have hrefused := map_eq_error.mp ((insert_eq_map path relations).symm.trans h)
  exact Prod.ext hrefused (insertInPlace_eq_self hrefused)

/-- Adds a relation by its path, name by name. -/
def insertPath? : List Text → Population → Option Population
  | [], _ => none
  | [name], relations => some (relations ++ [.leaf name])
  | name :: rest, relations =>
    updateFirst? name
      (fun r => (insertPath? rest r.children).map fun below => r.withChildren below) relations

/-- Whether a name is one of the relations at the top. -/
def hasRoot (name : Text) (relations : Population) : Bool :=
  (Relation.first? name relations).isSome

theorem insertPath?_cons (first : Text) {rest : List Text} (h : rest ≠ [])
    (relations : Population) :
    insertPath? (first :: rest) relations =
      updateFirst? first
        (fun r => (insertPath? rest r.children).map fun below => r.withChildren below)
        relations := by
  obtain ⟨next, rest, rfl⟩ := List.exists_cons_of_ne_nil h
  rw [insertPath?]
  exact fun heq => by cases heq

theorem map_insertPath? (names : List Text) (r : Relation) :
    ((insertPath? names r.children).map fun below => r.withChildren below) =
      if (attach names r).1 then some (attach names r).2 else none := by
  induction names generalizing r with
  | nil => rfl
  | cons name rest ih =>
    by_cases hrest : rest = []
    · subst hrest
      rfl
    · rw [insertPath?_cons name hrest, attach_cons name hrest, funext ih,
        updateFirst?_of_call (fun added => added)]
      rcases changeFirst name (attach rest) r.children with ⟨_ | _ | _, below⟩ <;> rfl

theorem insert_of_splitOn {path name : Text} {rest : List Text}
    (hsplit : path.splitOn '.' = name :: rest) (hrest : rest ≠ []) (relations : Population) :
    insert path relations =
      (attached path (changeFirst name (attach rest) relations).1).map fun _ =>
        (changeFirst name (attach rest) relations).2 := by
  rw [insert_eq_map, insertInPlace_of_splitOn hsplit hrest]

theorem insertPath?_of_splitOn {path name : Text} {rest : List Text}
    (hsplit : path.splitOn '.' = name :: rest) (hrest : rest ≠ []) (relations : Population) :
    insertPath? (path.splitOn '.') relations =
      if (changeFirst name (attach rest) relations).1.any (fun added => added)
      then some (changeFirst name (attach rest) relations).2 else none := by
  rw [hsplit, insertPath?_cons name hrest, funext (map_insertPath? rest),
    updateFirst?_of_call (fun added => added)]

theorem insert_of_singleton {path name : Text} (hsplit : path.splitOn '.' = [name])
    (relations : Population) : insert path relations = .ok (relations ++ [.leaf name]) := by
  have hpath : ['.'].intercalate (path.splitOn '.') = path := List.intercalate_splitOn '.'
  rw [hsplit, List.intercalate_singleton] at hpath
  rw [insert_eq_map, insertInPlace, hsplit, hpath]
  rfl

/-- The population after a path is added. -/
theorem insert_of_insertPath? {path : Text} {relations relations' : Population}
    (h : insertPath? (path.splitOn '.') relations = some relations') :
    insert path relations = .ok relations' := by
  obtain ⟨name, rest, hsplit⟩ := List.exists_cons_of_ne_nil (List.splitOn_ne_nil '.' path)
  by_cases hrest : rest = []
  · subst hrest
    rw [hsplit] at h
    rw [insert_of_singleton hsplit]
    exact congrArg Except.ok (Option.some.inj h)
  · rw [insertPath?_of_splitOn hsplit hrest] at h
    obtain ⟨hadded, heq⟩ := Option.ite_none_right_eq_some.mp h
    rw [insert_of_splitOn hsplit hrest, Option.some.inj heq]
    rcases hresult : (changeFirst name (attach rest) relations).1 with _ | _ | _
    · rw [hresult] at hadded
      cases hadded
    · rw [hresult] at hadded
      cases hadded
    · rfl

/-- The error of a path that is refused. -/
theorem insert_of_insertPath?_eq_none {path : Text} {relations : Population}
    (h : insertPath? (path.splitOn '.') relations = none) :
    insert path relations = .error (if hasRoot ((path.splitOn '.').headD []) relations
      then .missingSubRelation path else .missingRelation path) := by
  obtain ⟨name, rest, hsplit⟩ := List.exists_cons_of_ne_nil (List.splitOn_ne_nil '.' path)
  by_cases hrest : rest = []
  · rw [hsplit, hrest] at h
    cases h
  · have hroot := isSome_changeFirst name (attach rest) relations
    rw [insertPath?_of_splitOn hsplit hrest] at h
    rw [insert_of_splitOn hsplit hrest, hsplit, List.headD_cons, hasRoot, ← hroot]
    rcases hresult : (changeFirst name (attach rest) relations).1 with _ | _ | _
    · rfl
    · rfl
    · rw [hresult] at h
      cases h

/-! ## Routing a field -/

/-- **A field that is not routed leaves the population as it is.** -/
theorem routeInPlace_eq_self {field : Text} {v : Value} {relations : Population}
    (h : (routeInPlace field v relations).1 = false) :
    (routeInPlace field v relations).2 = relations := by
  rw [routeInPlace] at h ⊢
  split at h
  · refine changeFirst_eq_self (fun _ => False) (fun _ hfalse => hfalse.elim) ?_
    intro result hresult
    simp only [hresult] at h
    cases h
  · rfl

theorem routeInPlace_of_some {field : Text} {v : Value} {relations relations' : Population}
    (h : route? field v relations = some relations') :
    routeInPlace field v relations = (true, relations') := by
  rw [route?] at h
  obtain ⟨hrouted, heq⟩ := Option.ite_none_right_eq_some.mp h
  exact Prod.ext hrouted (Option.some.inj heq)

theorem routeInPlace_of_none {field : Text} {v : Value} {relations : Population}
    (h : route? field v relations = none) :
    routeInPlace field v relations = (false, relations) := by
  rw [route?] at h
  have hrouted : (routeInPlace field v relations).1 = false := by
    simpa using h
  exact Prod.ext hrouted (routeInPlace_eq_self hrouted)

/-- The population after a field is routed. -/
theorem route?_of_splitOn {field name : Text} {rest : List Text}
    (hsplit : field.splitOn '.' = name :: rest) (hrest : rest ≠ []) (v : Value)
    (relations : Population) :
    route? field v relations =
      updateFirst? name (fun r => some (projectPath v rest r)) relations := by
  have hupdate := updateFirst?_of_call (fun _ => true) name
    (fun r => ((), projectPath v rest r)) relations
  simp only [if_true] at hupdate
  obtain ⟨next, rest, rfl⟩ := List.exists_cons_of_ne_nil hrest
  rw [route?, routeInPlace, hsplit, hupdate]
  dsimp only
  cases (changeFirst name (fun r => ((), projectPath v (next :: rest) r)) relations).1 <;> rfl

theorem route?_of_singleton {field name : Text} (hsplit : field.splitOn '.' = [name]) (v : Value)
    (relations : Population) : route? field v relations = none := by
  rw [route?, routeInPlace, hsplit]
  rfl

end DocQuery.Population
