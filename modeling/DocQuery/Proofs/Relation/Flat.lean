import DocQuery.Proofs.Dict.Insert
import DocQuery.Proofs.Relation.Shape

/-!
# The fields of a population in one document

* `Population.flat`: the fields of all relations, each under the names that lead to its relation.
* `Relation.Neat`: a relation whose fields stand where they belong. No key leads on to a relation
  below, and of the relations of one name only the first has fields or relations below it.
* **`flat_route?`**: routing a field puts it under its full name and touches no other field.
* `neat_of_parse`, `nil_not_mem_names`: the population of a list of paths.
-/

namespace DocQuery

/-- Entries below a name: the name and a dot stand in front of every key. -/
def Population.under (name : Text) (d : Document) : Document :=
  d.map fun entry => (name ++ '.' :: entry.1, entry.2)

mutual

/-- The fields of a relation and of those below it, each under its names. -/
def Relation.flat : Relation → Document
  | .mk path projection children =>
    Population.under path (projection.getD [] ++ Population.flat children)

/-- The fields of all relations, each under its names. -/
def Population.flat : Population → Document
  | [] => []
  | r :: rest => r.flat ++ Population.flat rest

end

mutual

theorem Relation.flat_bare (r : Relation) : r.bare.flat = [] := by
  cases r with
  | mk path projection children =>
    rw [Relation.bare, Relation.flat, Population.flat_bare children]
    rfl

theorem Population.flat_bare (relations : Population) : relations.bare.flat = [] := by
  cases relations with
  | nil => rfl
  | cons r relations =>
    rw [Population.bare, Population.flat, Relation.flat_bare r, Population.flat_bare relations]
    rfl

end

namespace Relation

/-- The fields of a relation and of those below it, as seen from the relation. -/
def content (r : Relation) : Document := r.projection.getD [] ++ Population.flat r.children

theorem flat_eq_under (r : Relation) : r.flat = Population.under r.path r.content := by
  cases r
  rfl

/-- A relation without fields and without relations below it. -/
def IsLeaf (r : Relation) : Prop := r = leaf r.path

theorem IsLeaf.content_eq_nil {r : Relation} (h : r.IsLeaf) : r.content = [] := by
  rw [h]
  rfl

end Relation

namespace Population

/-- Of the relations of one name, all but the first are leaves. -/
def LedByFirst (relations : Population) : Prop :=
  relations.Pairwise fun r s => s.path = r.path → s.IsLeaf

end Population

/-- A relation whose fields stand where they belong. -/
inductive Relation.Neat : Relation → Prop
  | mk {path : Text} {projection : Option Document} {children : Population} (hpath : '.' ∉ path)
    (hnodup : (Dict.keys (projection.getD [])).Nodup)
    (hown : ∀ key ∈ Dict.keys (projection.getD []), ∀ c ∈ children, ∀ rest,
      key ≠ c.path ++ '.' :: rest)
    (hled : Population.LedByFirst children) (hchildren : ∀ c ∈ children, c.Neat) :
    Neat (.mk path projection children)

theorem Relation.Neat.path {r : Relation} (h : r.Neat) : '.' ∉ r.path := by
  cases h with
  | mk hpath => exact hpath

theorem Relation.Neat.of_mem_children {r c : Relation} (h : r.Neat) (hc : c ∈ r.children) :
    c.Neat := by
  cases h with
  | mk _ _ _ _ hchildren => exact hchildren c hc

namespace Population

/-- A population whose fields stand where they belong. -/
def Neat (relations : Population) : Prop := LedByFirst relations ∧ ∀ r ∈ relations, r.Neat

/-! ## Entries -/

theorem flat_append (relations others : Population) :
    flat (relations ++ others) = flat relations ++ flat others := by
  induction relations with
  | nil => rfl
  | cons r relations ih => simp only [List.cons_append, flat, ih, List.append_assoc]

theorem mem_flat_iff_content {relations : Population} {name : Text} {v : Value} :
    (name, v) ∈ flat relations ↔
      ∃ r ∈ relations, ∃ key, (key, v) ∈ r.content ∧ name = r.path ++ '.' :: key := by
  induction relations with
  | nil => simp [flat]
  | cons r relations ih =>
    rw [flat, List.mem_append, ih, Relation.flat_eq_under, under]
    simp only [List.mem_map, Prod.mk.injEq, Prod.exists, List.mem_cons, exists_eq_or_imp]
    refine or_congr ⟨?_, ?_⟩ Iff.rfl
    · rintro ⟨key, w, hmem, rfl, rfl⟩
      exact ⟨key, hmem, rfl⟩
    · rintro ⟨key, hmem, rfl⟩
      exact ⟨key, v, hmem, rfl, rfl⟩

/-- A key stands under the name of a relation that is no leaf. -/
theorem not_mem_keys_flat {relations : Population} {name key : Text} (hname : '.' ∉ name)
    (hpaths : ∀ r ∈ relations, '.' ∉ r.path) (hleaf : ∀ r ∈ relations, r.path = name → r.IsLeaf) :
    name ++ '.' :: key ∉ Dict.keys (flat relations) := by
  intro hmem
  obtain ⟨v, hv⟩ := Dict.mem_keys.mp hmem
  obtain ⟨r, hr, k, hk, heq⟩ := mem_flat_iff_content.mp hv
  obtain ⟨hpath, -⟩ := (Text.append_cons_inj hname (hpaths r hr)).mp heq
  rw [(hleaf r hr hpath.symm).content_eq_nil] at hk
  exact absurd hk List.not_mem_nil

theorem under_without (name key : Text) (d : Document) :
    under name (Dict.without key d) = Dict.without (name ++ '.' :: key) (under name d) := by
  rw [under, under, Dict.without, Dict.without, List.filter_map]
  congr 1
  refine List.filter_congr fun entry _ => ?_
  simp

theorem under_perm {d e : Document} (name : Text) (h : d.Perm e) :
    (under name d).Perm (under name e) := h.map _

/-! ## A change to one relation -/

section Change

variable {before after : Population} {r r' : Relation}

/-- The first relation of a name may become any other one of that name. -/
theorem LedByFirst.change (h : LedByFirst (before ++ r :: after)) (hbefore : NotNamed r.path before)
    (hpath : r'.path = r.path) : LedByFirst (before ++ r' :: after) := by
  obtain ⟨hled₁, hled₂, hcross⟩ := List.pairwise_append.mp h
  obtain ⟨hfirst, hled₃⟩ := List.pairwise_cons.mp hled₂
  refine List.pairwise_append.mpr ⟨hled₁, List.pairwise_cons.mpr ⟨?_, hled₃⟩, ?_⟩
  · intro s hs
    rw [hpath]
    exact hfirst s hs
  · intro s hs t ht
    rcases List.mem_cons.mp ht with rfl | ht
    · exact fun heq => absurd (heq.symm.trans hpath) (hbefore s hs)
    · exact hcross s hs t (List.mem_cons_of_mem _ ht)

theorem forall_mem_change {P : Relation → Prop} (h : ∀ s ∈ before ++ r :: after, P s) (hr' : P r') :
    ∀ s ∈ before ++ r' :: after, P s := by
  intro s hs
  rcases List.mem_append.mp hs with hs | hs
  · exact h s (List.mem_append_left _ hs)
  · rcases List.mem_cons.mp hs with rfl | hs
    · exact hr'
    · exact h s (List.mem_append_right _ (List.mem_cons_of_mem _ hs))

theorem Neat.change (h : Neat (before ++ r :: after)) (hbefore : NotNamed r.path before)
    (hpath : r'.path = r.path) (hr' : r'.Neat) : Neat (before ++ r' :: after) :=
  ⟨h.1.change hbefore hpath, forall_mem_change h.2 hr'⟩

/-- A field that is set in the first relation of a name is set under that name. -/
theorem flat_change {key : Text} {v : Value} (h : Neat (before ++ r :: after))
    (hbefore : NotNamed r.path before) (hpath : r'.path = r.path)
    (hcontent : r'.content.Perm ((key, v) :: Dict.without key r.content)) :
    (flat (before ++ r' :: after)).Perm
      ((r.path ++ '.' :: key, v) ::
        Dict.without (r.path ++ '.' :: key) (flat (before ++ r :: after))) := by
  obtain ⟨hled, hneat⟩ := h
  have hr : '.' ∉ r.path := (hneat r (by simp)).path
  have hout₁ : r.path ++ '.' :: key ∉ Dict.keys (flat before) :=
    not_mem_keys_flat hr (fun s hs => (hneat s (List.mem_append_left _ hs)).path)
      fun s hs heq => absurd heq (hbefore s hs)
  have hfirst := (List.pairwise_cons.mp (List.pairwise_append.mp hled).2.1).1
  have hout₂ : r.path ++ '.' :: key ∉ Dict.keys (flat after) :=
    not_mem_keys_flat hr
      (fun s hs => (hneat s (List.mem_append_right _ (List.mem_cons_of_mem _ hs))).path) hfirst
  have hflat : r'.flat.Perm
      ((r.path ++ '.' :: key, v) :: Dict.without (r.path ++ '.' :: key) r.flat) := by
    rw [Relation.flat_eq_under, Relation.flat_eq_under, hpath, ← under_without]
    exact under_perm r.path hcontent
  rw [flat_append, flat_append, flat, flat, Dict.without_append, Dict.without_append,
    Dict.without_eq_self hout₁, Dict.without_eq_self hout₂]
  exact ((hflat.append_right _).append_left _).trans List.perm_middle

end Change

/-! ## Routing -/

/-- A key that a relation keeps for itself leads to no relation below. -/
theorem intercalate_ne_append {name : Text} {rest : List Text} {children : Population}
    (hname : '.' ∉ name) (hpaths : ∀ c ∈ children, '.' ∉ c.path)
    (hfree : rest ≠ [] → NotNamed name children) (c : Relation) (hc : c ∈ children) (key : Text) :
    ['.'].intercalate (name :: rest) ≠ c.path ++ '.' :: key := by
  intro heq
  by_cases hrest : rest = []
  · subst hrest
    rw [List.intercalate_singleton] at heq
    exact hname (heq ▸ by simp)
  · rw [List.intercalate_cons_of_ne_nil hrest, List.append_assoc, List.singleton_append] at heq
    obtain ⟨hpath, -⟩ := (Text.append_cons_inj hname (hpaths c hc)).mp heq
    exact hfree hrest c hc hpath.symm

/-- A relation that sets a field of its own. -/
theorem content_project {r : Relation} (hr : r.Neat) {key : Text} (v : Value)
    (hkey : ∀ c ∈ r.children, ∀ rest, key ≠ c.path ++ '.' :: rest) :
    (r.project key v).Neat ∧
      (r.project key v).content.Perm ((key, v) :: Dict.without key r.content) := by
  cases hr with
  | @mk path projection children hpath hnodup hown hled hchildren =>
    constructor
    · refine .mk hpath (Dict.nodup_keys_insert key v hnodup) ?_ hled hchildren
      intro k hk c hc
      rcases Dict.mem_keys_insert.mp hk with rfl | hk
      · exact hkey c hc
      · exact hown k hk c hc
    · have hout : key ∉ Dict.keys (flat children) := by
        intro hmem
        obtain ⟨w, hw⟩ := Dict.mem_keys.mp hmem
        obtain ⟨c, hc, k, -, heq⟩ := mem_flat_iff_content.mp hw
        exact hkey c hc k heq
      change (Dict.insert key v (projection.getD []) ++ flat children).Perm
        ((key, v) :: Dict.without key (projection.getD [] ++ flat children))
      rw [Dict.without_append, Dict.without_eq_self hout]
      exact (Dict.insert_perm key v hnodup).append_right _

/-- A relation of which one below, the first of its name, sets a field. -/
theorem content_below {path : Text} {projection : Option Document} {before after : Population}
    {child child' : Relation} {key : Text} {v : Value}
    (hr : (Relation.mk path projection (before ++ child :: after)).Neat)
    (hbefore : NotNamed child.path before) (hpath : child'.path = child.path) (hneat : child'.Neat)
    (hcontent : child'.content.Perm ((key, v) :: Dict.without key child.content)) :
    (Relation.mk path projection (before ++ child' :: after)).Neat ∧
      (Relation.mk path projection (before ++ child' :: after)).content.Perm
        ((child.path ++ '.' :: key, v) :: Dict.without (child.path ++ '.' :: key)
          (Relation.mk path projection (before ++ child :: after)).content) := by
  have hmem : child ∈ before ++ child :: after := by simp
  cases hr with
  | mk hdot hnodup hown hled hchildren =>
    have hbelow : Neat (before ++ child :: after) := ⟨hled, hchildren⟩
    have hbelow' := hbelow.change hbefore hpath hneat
    constructor
    · refine .mk hdot hnodup ?_ hbelow'.1 hbelow'.2
      intro k hk c hc
      rcases List.mem_append.mp hc with hc | hc
      · exact hown k hk c (List.mem_append_left _ hc)
      · rcases List.mem_cons.mp hc with rfl | hc
        · rw [hpath]
          exact hown k hk child hmem
        · exact hown k hk c (List.mem_append_right _ (List.mem_cons_of_mem _ hc))
    · have hout : child.path ++ '.' :: key ∉ Dict.keys (projection.getD []) :=
        fun hk => hown _ hk child hmem _ rfl
      change (projection.getD [] ++ flat (before ++ child' :: after)).Perm
        (_ :: Dict.without _ (projection.getD [] ++ flat (before ++ child :: after)))
      rw [Dict.without_append, Dict.without_eq_self hout]
      have hflat := flat_change hbelow hbefore hpath hcontent
      exact (hflat.append_left _).trans List.perm_middle

/-- **What setting a field does to the fields.** It puts the field under its name in the place of
what stood there, and leaves the relation neat. -/
theorem content_projectPath (v : Value) {names : List Text} (hnames : names ≠ [])
    (hdots : ∀ name ∈ names, '.' ∉ name) {r : Relation} (hr : r.Neat) :
    (projectPath v names r).Neat ∧ (projectPath v names r).content.Perm
      ((['.'].intercalate names, v) :: Dict.without (['.'].intercalate names) r.content) := by
  revert hdots hr
  refine projectPath_induction v (motive := fun names r r' => (∀ name ∈ names, '.' ∉ name) →
    r.Neat → r'.Neat ∧ r'.content.Perm ((['.'].intercalate names, v) ::
      Dict.without (['.'].intercalate names) r.content)) ?_ ?_ hnames r
  · intro name rest r hfree hdots hr
    have hpaths : ∀ c ∈ r.children, '.' ∉ c.path := fun c hc => (hr.of_mem_children hc).path
    exact content_project hr v
      (intercalate_ne_append (hdots name List.mem_cons_self) hpaths hfree)
  · intro name rest path projection before child after hrest hbefore hchild ih hdots hr
    subst hchild
    obtain ⟨hneat, hperm⟩ := ih (fun n hn => hdots n (List.mem_cons_of_mem _ hn))
      (hr.of_mem_children (by simp [Relation.children]))
    rw [List.intercalate_cons_of_ne_nil hrest, List.append_assoc, List.singleton_append]
    exact content_below hr hbefore (path_projectPath v rest child) hneat hperm

/-- **Routing puts a field under its full name.** All other fields stay as they are. -/
theorem flat_route? {field : Text} {v : Value} {relations relations' : Population}
    (h : route? field v relations = some relations') (hneat : Neat relations) :
    Neat relations' ∧
      (flat relations').Perm ((field, v) :: Dict.without field (flat relations)) := by
  obtain ⟨name, names, before, r, after, hsplit, hnames, rfl, hbefore, rfl, rfl⟩ :=
    exists_of_route? h
  have hdots : ∀ n ∈ names, '.' ∉ n := fun n hn =>
    Text.not_mem_of_mem_splitOn (hsplit ▸ List.mem_cons_of_mem _ hn)
  have hfield : ['.'].intercalate (field.splitOn '.') = field := List.intercalate_splitOn '.'
  rw [hsplit, List.intercalate_cons_of_ne_nil hnames, List.append_assoc, List.singleton_append]
    at hfield
  obtain ⟨hneat', hperm⟩ := content_projectPath v hnames hdots (hneat.2 r (by simp))
  have hsame := path_projectPath v names r
  rw [← hfield]
  exact ⟨hneat.change hbefore hsame hneat', flat_change hneat hbefore hsame hperm⟩

/-! ## Lists of paths -/

theorem LedByFirst.concat_leaf {relations : Population} (h : LedByFirst relations) (name : Text) :
    LedByFirst (relations ++ [.leaf name]) := by
  refine List.pairwise_append.mpr ⟨h, List.pairwise_singleton _ _, ?_⟩
  intro r _ s hs _
  rw [List.mem_singleton.mp hs]
  rfl

theorem neat_leaf {name : Text} (h : '.' ∉ name) : (Relation.leaf name).Neat :=
  .mk h List.nodup_nil (fun _ hkey => absurd hkey List.not_mem_nil) List.Pairwise.nil
    fun _ hc => absurd hc List.not_mem_nil

theorem neat_insertPath? {names : List Text} {relations relations' : Population}
    (h : insertPath? names relations = some relations') (hdots : ∀ name ∈ names, '.' ∉ name)
    (hbare : bare relations = relations) (hneat : Neat relations) : Neat relations' := by
  revert hdots hbare hneat
  refine insertPath?_induction (motive := fun names relations relations' =>
    (∀ name ∈ names, '.' ∉ name) → bare relations = relations → Neat relations → Neat relations')
    ?_ ?_ h
  · intro name relations hdots _ hneat
    have hleaf := neat_leaf (hdots name List.mem_cons_self)
    exact ⟨hneat.1.concat_leaf name, List.forall_mem_append.mpr
      ⟨hneat.2, List.forall_mem_singleton.mpr hleaf⟩⟩
  · intro name rest path projection before children children' after _ hbefore hpath ih hdots hbare
      hneat
    have hmem : Relation.mk path projection children ∈
        before ++ Relation.mk path projection children :: after := by simp
    have hr := hneat.2 _ hmem
    rw [bare_append, bare, Relation.bare] at hbare
    obtain ⟨-, hrest⟩ := List.append_inj' hbare (by simp [bare_eq_map])
    obtain ⟨-, hprojection, hchildren⟩ := Relation.mk.inj (List.cons.inj hrest).1
    subst hprojection
    cases hr with
    | mk hdot hnodup _ hled hneat' =>
      have hbelow := ih (fun n hn => hdots n (List.mem_cons_of_mem _ hn)) hchildren ⟨hled, hneat'⟩
      have hr' : (Relation.mk path none children').Neat :=
        .mk hdot hnodup (fun _ hkey => absurd hkey List.not_mem_nil) hbelow.1 hbelow.2
      exact hneat.change (hpath ▸ hbefore) rfl hr'

/-- **A list of paths is neat.** -/
theorem neat_of_parse {value : Text} {tree : Population} (h : parse value = .ok tree) :
    Neat tree := by
  have hboth : bare tree = tree ∧ Neat tree := by
    refine parse_induction (motive := fun tree => bare tree = tree ∧ Neat tree)
      ⟨rfl, List.Pairwise.nil, fun _ hr => absurd hr List.not_mem_nil⟩ ?_ h
    intro path relations relations' _ hinsert hrelations
    have hdots : ∀ name ∈ path.splitOn '.', '.' ∉ name := fun _ => Text.not_mem_of_mem_splitOn
    exact ⟨bare_insertPath? hinsert hrelations.1,
      neat_insertPath? hinsert hdots hrelations.1 hrelations.2⟩
  exact hboth.2

theorem names_insertPath? {names : List Text} {relations relations' : Population}
    (h : insertPath? names relations = some relations') :
    relations'.names = relations.names ∨
      ∃ name, names = [name] ∧ relations'.names = relations.names ++ [name] := by
  refine insertPath?_induction (motive := fun names relations relations' =>
    relations'.names = relations.names ∨
      ∃ name, names = [name] ∧ relations'.names = relations.names ++ [name]) ?_ ?_ h
  · intro name relations
    exact .inr ⟨name, rfl, names_append ..⟩
  · intro name rest path projection before children children' after _ _ _ _
    exact .inl (by simp [Relation.path])

/-- No relation at the top of a list of paths has an empty name. -/
theorem nil_not_mem_names {value : Text} {tree : Population} (h : parse value = .ok tree) :
    [] ∉ tree.names := by
  refine parse_induction (motive := fun tree => [] ∉ tree.names) List.not_mem_nil ?_ h
  intro path relations relations' hpath hinsert hrelations
  rcases names_insertPath? hinsert with hnames | ⟨name, hsplit, hnames⟩
  · rwa [hnames]
  · have hname : ['.'].intercalate (path.splitOn '.') = path := List.intercalate_splitOn '.'
    rw [hsplit, List.intercalate_singleton] at hname
    rw [hnames, List.mem_append, not_or, List.mem_singleton]
    exact ⟨hrelations, fun heq => hpath (hname.symm.trans heq.symm)⟩

end Population

end DocQuery
