import DocQuery.Proofs.Relation.Branches
import DocQuery.Proofs.Relation.Owner
import DocQuery.Proofs.Relation.Routing

/-!
# Populations that calls lead to

Calls take the population of a list of paths, add relations, route fields and read projections, in
any order. Some of them are refused, and some stop halfway.

* `Call`, `Call.apply`, `Call.run`: what calls make of the population without relations.
* `Orderly`: names have no dot, projections have fields, each once and with a sign, and of the
  relations of one name only the first has a projection or relations below it.
* **`orderly_apply`**: every call keeps this.
* `Leads`: relations are added and fields routed, and none of them is refused.
* **`leads_of_orderly`**: that leads to every orderly population.
* **`exists_run_iff`**: calls lead to the orderly populations and to no others.
-/

namespace DocQuery

/-- Fields with their signs: there are some, and each is there once. -/
structure AreSigned (fields : Document) : Prop where
  ne_nil : fields ≠ []
  nodup : (Dict.keys fields).Nodup
  signs : ∀ entry ∈ fields, ∃ sign, entry.2 = .int32 sign

/-- A relation in order. Its name has no dot, a projection of it has fields with their signs, and of
the relations of one name below it all but the first are leaves. The same holds of these
relations. -/
inductive Relation.Orderly : Relation → Prop
  | mk {path : Text} {projection : Option Document} {children : Population} (hpath : '.' ∉ path)
    (hfields : ∀ fields, projection = some fields → AreSigned fields)
    (hled : Population.LedByFirst children) (hchildren : ∀ c ∈ children, c.Orderly) :
    Orderly (.mk path projection children)

theorem Relation.Orderly.path {r : Relation} (h : r.Orderly) : '.' ∉ r.path := by
  cases h with
  | mk hpath => exact hpath

theorem Relation.orderly_leaf {name : Text} (h : '.' ∉ name) : (leaf name).Orderly :=
  .mk h (fun _ hfields => nomatch hfields) .nil fun _ hc => absurd hc List.not_mem_nil

theorem AreSigned.insert {projection : Option Document}
    (h : ∀ fields, projection = some fields → AreSigned fields) (key : Text) (sign : Int32) :
    AreSigned (Dict.insert key (.int32 sign) (projection.getD [])) := by
  have hnodup : (Dict.keys (projection.getD [])).Nodup := by
    cases projection with
    | none => exact List.nodup_nil
    | some fields => exact (h fields rfl).nodup
  refine ⟨?_, Dict.nodup_keys_insert key _ hnodup, fun entry hentry => ?_⟩
  · have hkey : key ∈ Dict.keys (Dict.insert key (.int32 sign) (projection.getD [])) :=
      Dict.mem_keys_insert.mpr (.inl rfl)
    intro hnil
    rw [hnil] at hkey
    cases hkey
  · rcases Dict.eq_or_mem_of_mem_insert hentry with rfl | hmem
    · exact ⟨sign, rfl⟩
    · obtain ⟨fields, hfields, hmem⟩ := Population.mem_getD_iff.mp hmem
      exact (h fields hfields).signs entry hmem

theorem Relation.Orderly.project {r : Relation} (h : r.Orderly) (key : Text) (sign : Int32) :
    (r.project key (.int32 sign)).Orderly := by
  cases h with
  | mk hpath hfields hled hchildren =>
    refine .mk hpath (fun fields heq => ?_) hled hchildren
    cases heq
    exact AreSigned.insert hfields key sign

namespace Population

/-- A population in order: of the relations of one name at the top all but the first are leaves, and
every relation is in order. -/
def Orderly (relations : Population) : Prop := LedByFirst relations ∧ ∀ r ∈ relations, r.Orderly

/-! ## Calls -/

/-- A call on a population. -/
inductive Call
  /-- Takes the population of a list of paths in the place of the one that is there. -/
  | parse (value : Text)
  /-- Adds the relation of a path. -/
  | insert (path : Text)
  /-- Routes a field. -/
  | route (field : Text) (sign : Int32)
  /-- Reads a projection. -/
  | fields (value : Text)

namespace Call

/-- The population that a call leaves. A list of paths that is refused makes none, so the one that is
there is kept. -/
def apply (relations : Population) : Call → Population
  | parse value => (Population.parse value).toOption.getD relations
  | insert path => (insertInPlace path relations).2
  | route field sign => (routeInPlace field (.int32 sign) relations).2
  | fields value => (Projection.parse value relations).2

/-- The population after some calls, which start without relations. -/
def run (calls : List Call) : Population := calls.foldl apply []

theorem run_concat (calls : List Call) (call : Call) :
    run (calls ++ [call]) = call.apply (run calls) :=
  List.foldl_append

end Call

/-! ## Every call keeps a population in order -/

theorem Orderly.change {before after : Population} {r r' : Relation}
    (h : Orderly (before ++ r :: after)) (hbefore : NotNamed r.path before)
    (hpath : r'.path = r.path) (hr' : r'.Orderly) : Orderly (before ++ r' :: after) :=
  ⟨h.1.change hbefore hpath, forall_mem_change h.2 hr'⟩

/-- A change below a relation that keeps those below in order keeps all of them in order. -/
theorem Orderly.below {before after children children' : Population} {name : Text}
    {projection : Option Document} (hchange : Orderly children → Orderly children')
    (h : Orderly (before ++ .mk name projection children :: after))
    (hbefore : NotNamed name before) :
    Orderly (before ++ .mk name projection children' :: after) := by
  have hr : (Relation.mk name projection children).Orderly := h.2 _ (by simp)
  cases hr with
  | mk hpath hfields hled hchildren =>
    obtain ⟨hled', hchildren'⟩ := hchange ⟨hled, hchildren⟩
    exact h.change hbefore rfl (.mk hpath hfields hled' hchildren')

theorem Orderly.grows {name : Text} {address : List Text} {relations relations' : Population}
    (hgrows : Grows name address relations relations') (hname : '.' ∉ name)
    (h : Orderly relations) : Orderly relations' := by
  induction hgrows with
  | here relations =>
    exact ⟨h.1.concat_leaf name, List.forall_mem_append.mpr
      ⟨h.2, List.forall_mem_singleton.mpr (Relation.orderly_leaf hname)⟩⟩
  | deeper projection after hbefore _ ih => exact h.below ih hbefore

theorem Orderly.sets {key : Text} {sign : Int32} {address : List Text}
    {relations relations' : Population}
    (hsets : Sets key (.int32 sign) address relations relations') (h : Orderly relations) :
    Orderly relations' := by
  induction hsets with
  | @here r before after hbefore =>
    have hr := h.2 r (by simp)
    exact h.change hbefore rfl (hr.project key sign)
  | deeper projection after hbefore _ ih => exact h.below ih hbefore

theorem orderly_insert {path : Text} {relations relations' : Population}
    (hinsert : insert path relations = .ok relations') (h : Orderly relations) :
    Orderly relations' :=
  h.grows (grows_of_insert hinsert) (not_mem_lastName path)

theorem orderly_route? {field : Text} {sign : Int32} {relations relations' : Population}
    (hroute : route? field (.int32 sign) relations = some relations') (h : Orderly relations) :
    Orderly relations' := by
  obtain ⟨address, r, key, -, -, -, hsets⟩ := setsOwned_of_route? hroute
  exact h.sets hsets

theorem orderly_nil : Orderly [] := ⟨.nil, fun _ hr => absurd hr List.not_mem_nil⟩

theorem orderly_parse {value : Text} {tree : Population} (h : parse value = .ok tree) :
    Orderly tree :=
  parse_induction (motive := Orderly) orderly_nil
    (fun _ _ _ _ hinsert => orderly_insert (insert_of_insertPath? hinsert)) h

/-- **Every call keeps a population in order.** -/
theorem orderly_apply {relations : Population} (h : Orderly relations) (call : Call) :
    Orderly (call.apply relations) := by
  cases call with
  | parse value =>
    rw [Call.apply]
    cases hparse : parse value with
    | error e => exact h
    | ok tree => exact orderly_parse hparse
  | insert path =>
    rw [Call.apply]
    cases hinsert : insert path relations with
    | error e => rwa [insertInPlace_of_error hinsert]
    | ok relations' =>
      rw [insertInPlace_of_ok hinsert]
      exact orderly_insert hinsert h
  | route field sign =>
    rw [Call.apply]
    cases hroute : route? field (.int32 sign) relations with
    | none => rwa [routeInPlace_of_none hroute]
    | some relations' =>
      rw [routeInPlace_of_some hroute]
      exact orderly_route? hroute h
  | fields value =>
    exact Projection.parse_snd_induction (motive := Orderly)
      (fun _ _ _ _ hroute => orderly_route? hroute) value h

theorem orderly_run (calls : List Call) : Orderly (Call.run calls) := by
  induction calls using List.reverseRecOn with
  | nil => exact orderly_nil
  | append_singleton calls call ih =>
    rw [Call.run_concat]
    exact orderly_apply ih call

/-! ## Calls lead to every population in order -/

/-- Relations are added and fields routed, one after the other, and none of them is refused. -/
inductive Leads (relations : Population) : Population → Prop
  | refl : Leads relations relations
  | insert {path : Text} {others others' : Population} (h : Leads relations others)
      (hinsert : insert path others = .ok others') : Leads relations others'
  | route {field : Text} {sign : Int32} {others others' : Population} (h : Leads relations others)
      (hroute : route? field (.int32 sign) others = some others') : Leads relations others'

theorem Leads.trans {relations others result : Population} (h : Leads relations others)
    (h' : Leads others result) : Leads relations result := by
  induction h' with
  | refl => exact h
  | insert _ hinsert ih => exact ih.insert hinsert
  | route _ hroute ih => exact ih.route hroute

theorem exists_run_of_leads {relations : Population} (h : Leads [] relations) :
    ∃ calls, Call.run calls = relations := by
  induction h with
  | refl => exact ⟨[], rfl⟩
  | @insert path others others' _ hinsert ih =>
    obtain ⟨calls, rfl⟩ := ih
    refine ⟨calls ++ [.insert path], ?_⟩
    rw [Call.run_concat, Call.apply, insertInPlace_of_ok hinsert]
  | @route field sign others others' _ hroute ih =>
    obtain ⟨calls, rfl⟩ := ih
    refine ⟨calls ++ [.route field sign], ?_⟩
    rw [Call.run_concat, Call.apply, routeInPlace_of_some hroute]

theorem route?_append {name : Text} (hname : '.' ∉ name) (field : Text) (v : Value)
    (relations : Population) :
    route? (name ++ '.' :: field) v relations =
      Relation.updateFirst? name (fun r => some (projectPath v (field.splitOn '.') r))
        relations :=
  route?_of_splitOn (List.splitOn_append_cons_self_of_not_mem hname field)
    (List.splitOn_ne_nil '.' field) v relations

section Below

variable {name : Text} {before children children' : Population} (hname : '.' ∉ name)
  (hbefore : NotNamed name before) (projection : Option Document) (after : Population)

include hname hbefore

theorem insert_below {path : Text} (h : insert path children = .ok children') :
    insert (name ++ '.' :: path) (before ++ .mk name projection children :: after) =
      .ok (before ++ .mk name projection children' :: after) := by
  refine insert_of_insertPath? ?_
  rw [List.splitOn_append_cons_self_of_not_mem hname,
    insertPath?_cons name (List.splitOn_ne_nil '.' path),
    Relation.updateFirst?_append after hbefore rfl, Relation.children, insertPath?_of_insert h]
  rfl

theorem route?_below {field : Text} {v : Value} (h : route? field v children = some children') :
    route? (name ++ '.' :: field) v (before ++ .mk name projection children :: after) =
      some (before ++ .mk name projection children' :: after) := by
  obtain ⟨first, names, front, child, back, hsplit, hnames, rfl, hfront, hchild, rfl⟩ :=
    exists_of_route? h
  have hbelow := projectPath_below v hnames name projection back hfront hchild
  rw [route?_append hname, Relation.updateFirst?_append after hbefore (by rfl), Option.map_some,
    hsplit, hbelow]

theorem Leads.under (h : Leads children children') :
    Leads (before ++ .mk name projection children :: after)
      (before ++ .mk name projection children' :: after) := by
  induction h with
  | refl => exact .refl
  | insert _ hinsert ih => exact ih.insert (insert_below hname hbefore projection after hinsert)
  | route _ hroute ih => exact ih.route (route?_below hname hbefore projection after hroute)

end Below

theorem projectPath_splitOn (v : Value) (key : Text) {r : Relation} (h : r.children = []) :
    projectPath v (key.splitOn '.') r = r.project key v := by
  have hkey : ['.'].intercalate (key.splitOn '.') = key := List.intercalate_splitOn '.'
  obtain ⟨name, rest, hsplit⟩ := List.exists_cons_of_ne_nil (List.splitOn_ne_nil '.' key)
  rw [hsplit] at hkey ⊢
  by_cases hrest : rest = []
  · rw [hrest, List.intercalate_singleton] at hkey
    rw [hrest, projectPath, hkey]
  · have hfree : NotNamed name r.children := by
      rw [h]
      exact fun _ hc => absurd hc List.not_mem_nil
    rw [projectPath_here v hrest hfree, hkey]

section Concat

variable {name : Text} {relations : Population} (hname : '.' ∉ name)
  (hnew : NotNamed name relations)

include hname hnew

/-- A relation with nothing below it owns all fields that begin with its name. -/
theorem route?_concat (projection : Option Document) (key : Text) (v : Value) :
    route? (name ++ '.' :: key) v (relations ++ [.mk name projection []]) =
      some (relations ++ [.mk name (some (Dict.insert key v (projection.getD []))) []]) := by
  have hown := projectPath_splitOn v key (r := .mk name projection []) rfl
  rw [route?_append hname, Relation.updateFirst?_append [] hnew (by rfl), Option.map_some, hown]
  rfl

theorem leads_setEntries {entries : Document}
    (hsigns : ∀ entry ∈ entries, ∃ sign, entry.2 = .int32 sign) (projection : Option Document) :
    Leads (relations ++ [.mk name projection []])
      (relations ++ [.mk name (Relation.setEntries entries projection) []]) := by
  induction entries generalizing projection with
  | nil => exact .refl
  | cons entry entries ih =>
    obtain ⟨key, v⟩ := entry
    obtain ⟨⟨sign, rfl⟩, hrest⟩ := List.forall_mem_cons.mp hsigns
    have hroute := route?_concat hname hnew projection key (.int32 sign)
    exact (Leads.refl.route hroute).trans (ih hrest _)

end Concat

theorem leads_leaf {name : Text} (hname : '.' ∉ name) (relations : Population) :
    Leads relations (relations ++ [.leaf name]) := by
  have hinsert : insert name relations = .ok (relations ++ [.leaf name]) := by
    refine insert_of_insertPath? ?_
    rw [List.splitOn_eq_singleton hname]
    rfl
  exact Leads.refl.insert hinsert

/-- Fields are all there if they are set one after the other. -/
theorem setEntries_getD_nil {projection : Option Document}
    (h : ∀ fields, projection = some fields → AreSigned fields) :
    Relation.setEntries (projection.getD []) none = projection := by
  cases projection with
  | none => rfl
  | some fields =>
    rw [Relation.setEntries_eq, Option.getD_some, if_neg (h fields rfl).ne_nil]
    exact congrArg some (Dict.ofList_eq_self (h fields rfl).nodup)

/-- A relation in order of a new name is added as a leaf, gets its fields and then those below. -/
theorem leads_concat {relations : Population} {r : Relation} (hr : r.Orderly)
    (hnew : NotNamed r.path relations) (hbelow : Leads [] r.children) :
    Leads relations (relations ++ [r]) := by
  cases hr with
  | @mk path projection children hpath hfields _ _ =>
    have hsigns : ∀ entry ∈ projection.getD [], ∃ sign, entry.2 = .int32 sign := by
      intro entry hentry
      obtain ⟨fields, heq, hmem⟩ := mem_getD_iff.mp hentry
      exact (hfields fields heq).signs entry hmem
    have hset := leads_setEntries hpath hnew hsigns none
    rw [setEntries_getD_nil hfields] at hset
    have hchildren := hbelow.under hpath hnew projection []
    exact ((leads_leaf hpath relations).trans hset).trans hchildren

/-- One level of `leads_of_orderly`. -/
theorem leads_of_children {relations : Population} (h : Orderly relations)
    (hbelow : ∀ r ∈ relations, Leads [] r.children) : Leads [] relations := by
  induction relations using List.reverseRecOn with
  | nil => exact .refl
  | append_singleton relations r ih =>
    obtain ⟨hled, hall⟩ := h
    obtain ⟨hfront, -, hlater⟩ := List.pairwise_append.mp hled
    obtain ⟨horder, hr⟩ := List.forall_mem_append.mp hall
    have hr := hr r List.mem_cons_self
    have hrelations := ih ⟨hfront, horder⟩ fun s hs => hbelow s (List.mem_append_left _ hs)
    refine hrelations.trans ?_
    by_cases hname : r.path ∈ names relations
    · obtain ⟨s, hs, hpath⟩ := List.mem_map.mp hname
      have hleaf : r.IsLeaf := hlater s hs r List.mem_cons_self hpath.symm
      rw [hleaf]
      exact leads_leaf hr.path relations
    · exact leads_concat hr (notNamed_iff.mpr hname) (hbelow r (by simp))

theorem leads_children (r : Relation) : r.Orderly → Leads [] r.children := by
  induction r using Relation.induction with
  | mk path projection children ih =>
    intro hr
    cases hr with
    | mk _ _ hled hchildren =>
      exact leads_of_children ⟨hled, hchildren⟩ fun c hc => ih c hc (hchildren c hc)

/-- **Adding relations and routing fields leads to every population in order.** -/
theorem leads_of_orderly {relations : Population} (h : Orderly relations) : Leads [] relations :=
  leads_of_children h fun r hr => leads_children r (h.2 r hr)

/-- **The populations that calls lead to.** Whatever is called in whatever order, and whether or not
it is refused, names have no dot, projections have fields, each of them once and with a sign, and of
relations that stand side by side only the first of each name has a projection or relations below
it. Every such population comes of some calls. -/
theorem exists_run_iff {relations : Population} :
    (∃ calls, Call.run calls = relations) ↔ Orderly relations := by
  constructor
  · rintro ⟨calls, rfl⟩
    exact orderly_run calls
  · exact fun h => exists_run_of_leads (leads_of_orderly h)

end Population

end DocQuery
