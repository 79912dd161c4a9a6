import DocQuery.Proofs.Relation.Address
import DocQuery.Proofs.Relation.Path
import Mathlib.Data.List.Induction

/-!
# Relations that are added one after the other

A relation is added below the first relation that its path leads to. Relations that are added later
under the same name stand behind it and are never reached. So what has been added tells what can be
added next.

* `Population.Grows`: a population gets one more relation, the last one at an address.
* **`grows_of_insert`**: what adding a relation does.
* `branches`, **`branches_grows`**: the names at an address, and which of them is new.
* `History`: a population after some calls, and the paths that were added to it.
* **`branches_run`**: after any calls, the names at an address are those that were added there.
* **`insert_history`**: which path can be added after any calls, and the error of any other.
-/

namespace DocQuery.Population

/-- A population gets a relation of a name, the last one below the relation at an address, which is
the last one at the top if the address is empty. Everything else stays as it is. -/
inductive Grows (name : Text) : List Text → Population → Population → Prop
  | here (relations : Population) : Grows name [] relations (relations ++ [.leaf name])
  | deeper {first : Text} {address : List Text} (projection : Option Document)
    {before : Population} {children children' : List Relation} (after : Population)
    (hbefore : NotNamed first before) (hgrows : Grows name address children children') :
    Grows name (first :: address) (before ++ .mk first projection children :: after)
      (before ++ .mk first projection children' :: after)

/-! ## Adding a relation -/

theorem grows_of_insertPath? {address : List Text} {name : Text} {relations relations' : Population}
    (h : insertPath? (address ++ [name]) relations = some relations') :
    Grows name address relations relations' := by
  have hgrows : Grows ((address ++ [name]).getLastD []) (address ++ [name]).dropLast relations
      relations' := by
    refine insertPath?_induction (motive := fun names relations relations' =>
      Grows (names.getLastD []) names.dropLast relations relations') ?_ ?_ h
    · intro name relations
      exact .here relations
    · rintro first rest path projection before children children' after hrest hbefore rfl ih
      obtain ⟨next, rest, rfl⟩ := List.exists_cons_of_ne_nil hrest
      exact .deeper projection after hbefore ih
  rwa [List.getLastD_concat, List.dropLast_concat] at hgrows

/-- **What adding a relation does.** -/
theorem grows_of_insert {path : Text} {relations relations' : Population}
    (h : insert path relations = .ok relations') :
    Grows (lastName path) (addressOf (parent? path)) relations relations' := by
  have hinsert := insertPath?_of_insert h
  rw [splitOn_eq_concat] at hinsert
  exact grows_of_insertPath? hinsert

theorem isSome_updateFirst? (name : Text) (change : Relation → Option Relation)
    (relations : Population) :
    (Relation.updateFirst? name change relations).isSome =
      ((Relation.first? name relations).bind change).isSome := by
  by_cases hname : name ∈ relations.names
  · obtain ⟨before, r, after, rfl, hbefore, hr⟩ := exists_first hname
    rw [Relation.updateFirst?_append after hbefore hr, Relation.first?_append after hbefore hr,
      Option.isSome_map, Option.bind_some]
  · rw [Relation.updateFirst?_eq_none (notNamed_iff.mpr hname),
      Relation.first?_of_notNamed (notNamed_iff.mpr hname)]
    rfl

/-- A relation can be added at the top, and below any relation that is there. -/
theorem isSome_insertPath? (address : List Text) (name : Text) (relations : Population) :
    (insertPath? (address ++ [name]) relations).isSome ↔
      address = [] ∨ (find? address relations).isSome := by
  induction address generalizing relations with
  | nil => exact iff_of_true rfl (.inl rfl)
  | cons first address ih =>
    rw [List.cons_append, insertPath?_cons first (by simp), isSome_updateFirst?]
    cases hfirst : Relation.first? first relations with
    | none =>
      have hnone : find? (first :: address) relations = none := by
        by_cases haddress : address = []
        · rw [haddress]
          exact hfirst
        · rw [find?_cons first haddress, hfirst]
          rfl
      simp [hnone]
    | some r =>
      rw [Option.bind_some, Option.isSome_map, ih]
      by_cases haddress : address = []
      · have hfound : find? [first] relations = some r := hfirst
        simp [haddress, hfound]
      · rw [find?_cons first haddress, hfirst]
        simp [haddress]

theorem error_of_insertPath? {path : Text} {relations : Population} {e : QueryError}
    (h : insert path relations = .error e) :
    (if hasRoot ((path.splitOn '.').headD []) relations then .missingSubRelation path
      else .missingRelation path) = e := by
  cases hinsert : insertPath? (path.splitOn '.') relations with
  | some relations' =>
    rw [insert_of_insertPath? hinsert] at h
    cases h
  | none =>
    rw [insert_of_insertPath?_eq_none hinsert] at h
    exact Except.error.inj h

/-- **Which relation can be added:** one whose path leads to a relation above, or to the top. -/
theorem exists_insert_iff {path : Text} {relations : Population} :
    (∃ relations', insert path relations = .ok relations') ↔
      ∀ parent, parent? path = some parent → (find? (parent.splitOn '.') relations).isSome := by
  have hinsert : (∃ relations', insert path relations = .ok relations') ↔
      (insertPath? (path.splitOn '.') relations).isSome := by
    rw [Option.isSome_iff_exists]
    exact exists_congr fun relations' => ⟨insertPath?_of_insert, insert_of_insertPath?⟩
  rw [hinsert, splitOn_eq_concat, isSome_insertPath?]
  cases hparent : parent? path with
  | none => simp [addressOf]
  | some parent => simp [addressOf, List.splitOn_ne_nil]

/-! ## Names at an address -/

/-- The names of the relations below the one at an address, or of those at the top if the address is
empty. -/
def branches : List Text → Population → List Text
  | [], relations => relations.names
  | name :: address, relations =>
    ((Relation.first? name relations).map fun r => branches address r.children).getD []

theorem branches_nil (address : List Text) : branches address [] = [] := by
  cases address <;> rfl

theorem branches_of_find? {address : List Text} {relations : Population} {r : Relation}
    (h : find? address relations = some r) : branches address relations = names r.children := by
  induction address generalizing relations with
  | nil => cases h
  | cons name address ih =>
    by_cases haddress : address = []
    · subst haddress
      have hfirst : Relation.first? name relations = some r := h
      rw [branches, hfirst]
      rfl
    · rw [find?_cons name haddress] at h
      obtain ⟨s, hfirst, hfind⟩ := Option.bind_eq_some_iff.mp h
      rw [branches, hfirst, Option.map_some, Option.getD_some, ih hfind]

theorem mem_names_iff {name : Text} {relations : Population} :
    name ∈ relations.names ↔ (Relation.first? name relations).isSome := by
  rw [names, List.mem_map, Relation.first?, List.find?_isSome]
  simp

/-- A relation is found just if its name is one of those at the address above. -/
theorem isSome_find?_iff {address : List Text} {name : Text} {relations : Population} :
    (find? (address ++ [name]) relations).isSome ↔ name ∈ branches address relations := by
  induction address generalizing relations with
  | nil => exact mem_names_iff.symm
  | cons first address ih =>
    rw [List.cons_append, find?_cons first (by simp), branches]
    cases Relation.first? first relations with
    | none => simp
    | some r => exact ih

theorem first?_append_of_ne {name : Text} {r r' : Relation} (before after : Population)
    (hpath : r'.path = r.path) (hne : r.path ≠ name) :
    Relation.first? name (before ++ r' :: after) = Relation.first? name (before ++ r :: after) := by
  rw [Relation.first?, Relation.first?, List.find?_append, List.find?_append,
    List.find?_cons_of_neg (by simp [hpath, hne]), List.find?_cons_of_neg (by simp [hne])]

theorem first?_concat (name : Text) (relations : Population) (r : Relation) :
    Relation.first? name (relations ++ [r]) =
      (Relation.first? name relations).or (if r.path = name then some r else none) := by
  rw [Relation.first?, List.find?_append, List.find?_singleton]
  simp [Relation.first?]

/-- **Which name is new.** The names at the address get it as the last one, and no others change. -/
theorem branches_grows {name : Text} {address : List Text} {relations relations' : Population}
    (h : Grows name address relations relations') (other : List Text) :
    branches other relations' =
      branches other relations ++ if address = other then [name] else [] := by
  induction h generalizing other with
  | here relations =>
    cases other with
    | nil => exact names_append relations [.leaf name]
    | cons first other =>
      -- the new relation is reached only where there was none, and it has none below it
      rw [if_neg (by simp), List.append_nil, branches, branches, first?_concat]
      cases Relation.first? first relations with
      | some r => rfl
      | none =>
        rw [Option.none_or]
        split
        · exact branches_nil other
        · rfl
  | @deeper first address projection before children children' after hbefore _ ih =>
    cases other with
    | nil =>
      rw [if_neg (List.cons_ne_nil _ _), List.append_nil, branches, branches]
      simp [Relation.path]
    | cons name other =>
      by_cases hname : first = name
      · subst hname
        rw [branches, branches, Relation.first?_append after hbefore rfl,
          Relation.first?_append after hbefore rfl]
        simpa [Relation.children] using ih other
      · have hsame : Relation.first? name (before ++ .mk first projection children' :: after) =
            Relation.first? name (before ++ .mk first projection children :: after) :=
          first?_append_of_ne before after rfl hname
        rw [branches, branches, hsame, if_neg (by simp [hname]), List.append_nil]

/-! ## Calls -/

/-- A population, and the paths that were added to it, in order. -/
structure History where
  relations : Population := []
  added : List Text := []

namespace History

/-- A history after one more call to add a path. The population is the one that the call leaves. -/
def call (h : History) (path : Text) : History :=
  match insertInPlace path h.relations with
  | (.ok (), relations) => ⟨relations, h.added ++ [path]⟩
  | (.error _, relations) => ⟨relations, h.added⟩

/-- The history of some calls, which starts without relations. -/
def run (calls : List Text) : History := calls.foldl call {}

/-- The names at every address are those that were added there, in order. -/
def Sound (h : History) : Prop :=
  ∀ address, branches address h.relations =
    (h.added.filter fun path => addressOf (parent? path) = address).map lastName

theorem run_concat (calls : List Text) (path : Text) :
    run (calls ++ [path]) = (run calls).call path :=
  List.foldl_append

variable {h : History} {path : Text}

theorem call_of_ok {relations : Population} (hinsert : insert path h.relations = .ok relations) :
    h.call path = ⟨relations, h.added ++ [path]⟩ := by
  rw [call, insertInPlace_of_ok hinsert]

/-- A path that is refused leaves the population as it is. -/
theorem call_of_error {e : QueryError} (hinsert : insert path h.relations = .error e) :
    h.call path = h := by
  rw [call, insertInPlace_of_error hinsert]

theorem Sound.call (hsound : h.Sound) (path : Text) : (h.call path).Sound := by
  cases hinsert : insert path h.relations with
  | error e => rwa [call_of_error hinsert]
  | ok relations =>
    rw [call_of_ok hinsert]
    intro address
    rw [branches_grows (grows_of_insert hinsert), hsound, List.filter_append, List.map_append]
    by_cases haddress : addressOf (parent? path) = address <;> simp [haddress]

/-- **After any calls the names at an address are those that were added there.** -/
theorem branches_run (calls : List Text) : (run calls).Sound := by
  induction calls using List.reverseRecOn with
  | nil => exact fun address => branches_nil address
  | append_singleton calls path ih =>
    rw [run_concat]
    exact ih.call path

/-- **The relations that are found are those that were added.** -/
theorem Sound.isSome_find?_iff (hsound : h.Sound) (path : Text) :
    (find? (path.splitOn '.') h.relations).isSome ↔ path ∈ h.added := by
  rw [splitOn_eq_concat, Population.isSome_find?_iff, hsound, List.mem_map]
  constructor
  · rintro ⟨other, hother, hname⟩
    obtain ⟨hmem, haddress⟩ := List.mem_filter.mp hother
    have hsplit : other.splitOn '.' = path.splitOn '.' := by
      rw [splitOn_eq_concat other, splitOn_eq_concat path, hname, of_decide_eq_true haddress]
    rwa [← splitOn_inj hsplit]
  · intro hmem
    exact ⟨path, List.mem_filter.mpr ⟨hmem, decide_eq_true rfl⟩, rfl⟩

/-- A path can be added if the path above it was added. -/
theorem Sound.exists_insert_iff (hsound : h.Sound) :
    (∃ relations, insert path h.relations = .ok relations) ↔
      ∀ parent, parent? path = some parent → parent ∈ h.added := by
  rw [Population.exists_insert_iff]
  simp only [hsound.isSome_find?_iff]

/-- The error of a path tells whether its first name was added. -/
theorem Sound.error_of_insert (hsound : h.Sound) {e : QueryError}
    (hinsert : insert path h.relations = .error e) :
    ∃ head rest, '.' ∉ head ∧ path = head ++ '.' :: rest ∧
      e = if head ∈ h.added then .missingSubRelation path else .missingRelation path := by
  have hdot : '.' ∈ path := by
    by_contra hpath
    obtain ⟨relations, hok⟩ := hsound.exists_insert_iff.mpr fun parent hparent => by
      rw [parent?_of_not_mem hpath] at hparent
      cases hparent
    rw [hok] at hinsert
    cases hinsert
  obtain ⟨head, rest, hhead, rfl, hsplit⟩ := Text.splitOn_eq_cons hdot
  have hroot : hasRoot head h.relations = true ↔ head ∈ h.added := by
    rw [← hsound.isSome_find?_iff, List.splitOn_eq_singleton hhead]
    rfl
  refine ⟨head, rest, hhead, rfl, ?_⟩
  rw [← error_of_insertPath? hinsert, hsplit, List.headD_cons]
  simp only [hroot]

end History

/-- **Adding relations.** After any calls, some of which were refused, a path can be added just if it
has no dot or what stands before its last dot was added before. If it is refused, nothing changes,
and the error has the whole path and tells whether what stands before its first dot was added. If it
is added, one relation is new: it has the name behind the last dot and is the last one at the top, or
the last one below the relation that the path above leads to. -/
theorem insert_history (calls : List Text) (path : Text) :
    ((∃ relations, insert path (History.run calls).relations = .ok relations) ↔
        '.' ∉ path ∨ ∃ parent name, '.' ∉ name ∧ path = parent ++ '.' :: name ∧
          parent ∈ (History.run calls).added) ∧
      (∀ e, insert path (History.run calls).relations = .error e →
        History.run (calls ++ [path]) = History.run calls ∧
          ∃ head rest, '.' ∉ head ∧ path = head ++ '.' :: rest ∧
            e = if head ∈ (History.run calls).added then .missingSubRelation path
              else .missingRelation path) ∧
      ∀ relations, insert path (History.run calls).relations = .ok relations →
        History.run (calls ++ [path]) = ⟨relations, (History.run calls).added ++ [path]⟩ ∧
          ('.' ∉ path ∧ Grows path [] (History.run calls).relations relations ∨
            ∃ parent name, '.' ∉ name ∧ path = parent ++ '.' :: name ∧
              Grows name (parent.splitOn '.') (History.run calls).relations relations) := by
  have hsound := History.branches_run calls
  refine ⟨?_, fun e he => ?_, fun relations hrelations => ?_⟩
  · rw [hsound.exists_insert_iff]
    constructor
    · intro hadded
      cases hparent : parent? path with
      | none => exact .inl (parent?_eq_none_iff.mp hparent)
      | some parent =>
        obtain ⟨name, hname, heq⟩ := parent?_eq_some_iff.mp hparent
        exact .inr ⟨parent, name, hname, heq, hadded parent hparent⟩
    · rintro (hpath | ⟨parent, name, hname, rfl, hmem⟩) above habove
      · rw [parent?_of_not_mem hpath] at habove
        cases habove
      · rw [parent?_append hname] at habove
        cases habove
        exact hmem
  · rw [History.run_concat, History.call_of_error he]
    exact ⟨rfl, hsound.error_of_insert he⟩
  · rw [History.run_concat, History.call_of_ok hrelations]
    refine ⟨rfl, ?_⟩
    have hgrows := grows_of_insert hrelations
    rcases path_cases path with hpath | ⟨parent, name, hname, rfl⟩
    · rw [lastName_of_not_mem hpath, parent?_of_not_mem hpath] at hgrows
      exact .inl ⟨hpath, hgrows⟩
    · rw [lastName_append hname, parent?_append hname] at hgrows
      exact .inr ⟨parent, name, hname, rfl, hgrows⟩

/-- Calls with a name that is empty, one that comes twice, and a path that is refused. -/
def shadowingCalls : List Text := ["user", "pet.toy", "user.", "user", "user..b"].map String.toList

/-- Their history. -/
def shadowingHistory : History where
  relations := [
    .mk "user".toList none [.mk [] none [.leaf "b".toList]],
    .leaf "user".toList]
  added := ["user", "user.", "user", "user..b"].map String.toList

/-- The relations after a path through the name that comes twice. -/
def shadowingResult : Population := [
  .mk "user".toList none [.mk [] none [.leaf "b".toList], .leaf "a".toList],
  .leaf "user".toList]

theorem insert_history_shadowing :
    History.run shadowingCalls = shadowingHistory ∧
      (insert "user.a".toList shadowingHistory.relations = .ok shadowingResult ∧
        History.run (shadowingCalls ++ ["user.a".toList]) =
          ⟨shadowingResult, shadowingHistory.added ++ ["user.a".toList]⟩) ∧
      insert "user.a.b".toList shadowingHistory.relations =
          .error (.missingSubRelation "user.a.b".toList) ∧
        History.run (shadowingCalls ++ ["user.a.b".toList]) = shadowingHistory := by
  have hrun : History.run shadowingCalls = shadowingHistory := rfl
  have hok : insert "user.a".toList (History.run shadowingCalls).relations = .ok shadowingResult :=
    rfl
  have herror : insert "user.a.b".toList (History.run shadowingCalls).relations =
      .error (.missingSubRelation "user.a.b".toList) := rfl
  obtain ⟨-, -, hgrows⟩ := insert_history shadowingCalls "user.a".toList
  obtain ⟨-, hrefused, -⟩ := insert_history shadowingCalls "user.a.b".toList
  exact ⟨hrun, ⟨hok, (hgrows _ hok).1⟩, herror, (hrefused _ herror).1⟩

end DocQuery.Population
