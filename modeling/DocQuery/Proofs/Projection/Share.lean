import DocQuery.Proofs.Projection.Tokens
import DocQuery.Proofs.Relation.Flat

/-!
# Sharing out a projection

Tokens that are no literals are read with no relation at the top, which keeps all of their fields
together, and with a population, which takes those that belong to it.

* `entry`, `topEntries_eq_ok`: the field that such a token names, with its sign.
* `owns`, `belongs_eq_owns`: whether a token belongs to a relation is told by its field.
* `Share`: a document is shared out between the top and the relations of a population.
* **`Share.foldl`**, **`share_parse`**: reading tokens both ways shares out their fields.
-/

namespace DocQuery.Projection

open Population

/-! ## Tokens that are no literals -/

/-- The entry of a token that is no literal: its field, included or excluded. -/
def entry (token : Text) : Text × Value :=
  ((signedField token).1, .int32 (signedField token).2)

theorem readEntry_of_isLiteral {token : Text} (h : isLiteral token = false) :
    readEntry token = .ok (entry token) := by
  unfold readEntry entry signedField
  split
  · rfl
  · rw [if_neg (by simp [h])]

theorem mapM_readEntry {tokens : List Text} (h : ∀ token ∈ tokens, isLiteral token = false) :
    tokens.mapM readEntry = .ok (tokens.map entry) := by
  induction tokens with
  | nil => rfl
  | cons token tokens ih =>
    rw [List.mapM_cons, readEntry_of_isLiteral (h token List.mem_cons_self),
      ih fun t ht => h t (List.mem_cons_of_mem _ ht)]
    rfl

theorem topEntries_eq_ok (roots : List Text) {tokens : List Text}
    (h : ∀ token ∈ tokens, isLiteral token = false) :
    topEntries roots tokens =
      .ok ((tokens.filter fun token => !belongs roots token).map entry) :=
  mapM_readEntry fun token htoken => h token (List.mem_filter.mp htoken).1

theorem getD_ofFields (fields : Document) : (ofFields fields).getD [] = fields := by
  cases fields <;> rfl

/-! ## Fields that belong to a relation -/

/-- Whether a field has a dot and the name in front of it is that of a relation at the top. -/
def owns (roots : List Text) (field : Text) : Bool :=
  field.contains '.' && roots.contains ((field.splitOn '.').headD [])

theorem owns_append_dot (roots : List Text) {name : Text} (rest : Text) (hname : '.' ∉ name) :
    owns roots (name ++ '.' :: rest) = roots.contains name := by
  have hdot : '.' ∈ name ++ '.' :: rest := by simp
  obtain ⟨first, others, hfirst, heq, hsplit⟩ := Text.splitOn_eq_cons hdot
  obtain ⟨rfl, rfl⟩ := (Text.append_cons_inj hname hfirst).mp heq
  rw [owns, hsplit, List.headD_cons, List.contains_iff_mem.mpr hdot, Bool.true_and]

theorem owns_of_mem_keys_flat {relations : Population} (h : relations.Neat) {key : Text}
    (hkey : key ∈ Dict.keys relations.flat) : owns relations.names key = true := by
  obtain ⟨v, hv⟩ := Dict.mem_keys.mp hkey
  obtain ⟨r, hr, rest, -, rfl⟩ := mem_flat_iff_content.mp hv
  rw [owns_append_dot _ _ (h.2 r hr).path]
  exact List.contains_iff_mem.mpr (List.mem_map_of_mem hr)

theorem belongs_eq_owns {roots : List Text} (hroots : [] ∉ roots) (token : Text) :
    belongs roots token = owns roots (signedField token).1 := by
  unfold belongs owns firstName isDotted signedField
  split
  · simp
  · rcases token with _ | ⟨c, token⟩
    · simp
    · by_cases hc : c = '.'
      · subst hc
        have hsplit : ('.' :: token).splitOn '.' = [] :: token.splitOn '.' :=
          List.splitOn_append_cons_self_of_not_mem List.not_mem_nil token
        simp [hsplit, hroots]
      · simp [hc]

/-! ## Shares -/

/-- A document is shared out between the top and the relations of a population. The relations have
the fields that belong to them and the top has the others. -/
structure Share (plain top : Document) (relations : Population) : Prop where
  nodup : (Dict.keys plain).Nodup
  perm : plain.Perm (top ++ relations.flat)
  neat : relations.Neat
  own : ∀ key ∈ Dict.keys top, owns relations.names key = false

namespace Share

variable {plain top : Document} {relations : Population}

theorem nodup_keys_top (h : Share plain top relations) : (Dict.keys top).Nodup := by
  have hnodup := (Dict.keys_perm h.perm).nodup_iff.mp h.nodup
  rw [Dict.keys_append] at hnodup
  exact (List.nodup_append.mp hnodup).1

/-- A field is set in the document: it is gone from the top and from the relations, and is put
anew. -/
theorem insert_perm (h : Share plain top relations) (field : Text) (v : Value) :
    (Dict.insert field v plain).Perm
      ((field, v) :: (Dict.without field top ++ Dict.without field relations.flat)) := by
  rw [← Dict.without_append]
  exact (Dict.insert_perm field v h.nodup).trans ((Dict.without_perm field h.perm).cons _)

theorem keep (h : Share plain top relations) {field : Text} (v : Value)
    (hfield : owns relations.names field = false) :
    Share (Dict.insert field v plain) (Dict.insert field v top) relations where
  nodup := Dict.nodup_keys_insert field v h.nodup
  perm := by
    have hout : field ∉ Dict.keys relations.flat := by
      intro hmem
      rw [owns_of_mem_keys_flat h.neat hmem] at hfield
      cases hfield
    have hplain := h.insert_perm field v
    rw [Dict.without_eq_self hout] at hplain
    exact hplain.trans ((Dict.insert_perm field v h.nodup_keys_top).symm.append_right _)
  neat := h.neat
  own := by
    intro key hkey
    rcases Dict.mem_keys_insert.mp hkey with rfl | hkey
    · exact hfield
    · exact h.own key hkey

theorem route (h : Share plain top relations) {field : Text} {v : Value}
    {relations' : Population} (hroute : Population.route? field v relations = some relations')
    (hfield : owns relations.names field = true) :
    Share (Dict.insert field v plain) top relations' where
  nodup := Dict.nodup_keys_insert field v h.nodup
  perm := by
    have hout : field ∉ Dict.keys top := by
      intro hmem
      rw [h.own field hmem] at hfield
      cases hfield
    have hplain := h.insert_perm field v
    rw [Dict.without_eq_self hout] at hplain
    have hflat := (flat_route? hroute h.neat).2.symm
    exact hplain.trans (List.perm_middle.symm.trans (hflat.append_left _))
  neat := (flat_route? hroute h.neat).1
  own := by
    rw [names_route? hroute]
    exact h.own

/-- **A token leaves its document shared out.** -/
theorem step (h : Share plain top relations) (hroots : [] ∉ relations.names) (token : Text) :
    Share (Dict.insert (entry token).1 (entry token).2 plain)
      (if belongs relations.names token then top
        else Dict.insert (entry token).1 (entry token).2 top)
      (routeToken relations token) := by
  have howns := belongs_eq_owns hroots token
  cases hbelongs : belongs relations.names token with
  | false =>
    rw [routeToken_of_not_belongs hbelongs]
    exact h.keep _ (howns.symm.trans hbelongs)
  | true => exact h.route (route?_signedField hbelongs) (howns.symm.trans hbelongs)

/-- **Tokens leave their document shared out.** -/
theorem foldl (h : Share plain top relations) (hroots : [] ∉ relations.names)
    (tokens : List Text) :
    Share (Dict.insertAll (tokens.map entry) plain)
      (Dict.insertAll ((tokens.filter fun token => !belongs relations.names token).map entry) top)
      (tokens.foldl routeToken relations) := by
  induction tokens generalizing plain top relations with
  | nil => exact h
  | cons token tokens ih =>
    have hnames := names_routeToken relations token
    have hrest := ih (h.step hroots token) (hnames ▸ hroots)
    rw [hnames] at hrest
    cases hbelongs : belongs relations.names token with
    | true =>
      rw [hbelongs] at hrest
      rw [List.filter_cons_of_neg (by simp [hbelongs])]
      exact hrest
    | false =>
      rw [hbelongs] at hrest
      rw [List.filter_cons_of_pos (by simp [hbelongs])]
      exact hrest

end Share

theorem Share.nil {tree : Population} (hneat : tree.Neat) (hbare : tree.bare = tree) :
    Share [] [] tree where
  nodup := List.nodup_nil
  perm := by
    rw [← hbare, Population.flat_bare]
    exact .refl _
  neat := hneat
  own := fun _ hkey => absurd hkey List.not_mem_nil

theorem parse_fst_of_isLiteral {value : Text} (relations : Population)
    (h : ∀ token ∈ tokens value, isLiteral token = false) :
    (parse value relations).1 = .ok (ofFields (Dict.ofList
      (((tokens value).filter fun token => !belongs relations.names token).map entry))) := by
  rw [parse_fst, topEntries_eq_ok _ h]
  rfl

theorem filter_belongs_nil (tokens : List Text) :
    (tokens.filter fun token => !belongs [] token) = tokens :=
  List.filter_eq_self.mpr fun token _ => by simp [belongs]

/-- **Reading a projection with and without a population shares out its fields.** -/
theorem share_parse {value : Text} {tree : Population} {plain top : Option Document}
    (hliteral : ∀ token ∈ tokens value, isLiteral token = false) (hneat : tree.Neat)
    (hbare : tree.bare = tree) (hroots : [] ∉ tree.names) (hplain : (parse value []).1 = .ok plain)
    (htop : (parse value tree).1 = .ok top) :
    plain.getD [] = Dict.ofList ((tokens value).map entry) ∧
      Share (plain.getD []) (top.getD []) ((tokens value).foldl routeToken tree) := by
  rw [parse_fst_of_isLiteral _ hliteral] at hplain htop
  cases hplain
  cases htop
  have hall : (tokens value).filter (fun token => !belongs (names []) token) = tokens value :=
    filter_belongs_nil _
  rw [getD_ofFields, getD_ofFields, hall]
  exact ⟨rfl, (Share.nil hneat hbare).foldl hroots (tokens value)⟩

/-- **The last token of a field tells its sign.** -/
theorem mem_ofList_entry {tokens : List Text} {field : Text} {v : Value} :
    (field, v) ∈ Dict.ofList (tokens.map entry) ↔
      ∃ before token after, tokens = before ++ token :: after ∧ entry token = (field, v) ∧
        ∀ later ∈ after, (entry later).1 ≠ field := by
  rw [Dict.mem_ofList]
  constructor
  · rintro ⟨before, after, heq, hafter⟩
    obtain ⟨first, rest, rfl, rfl, hrest⟩ := List.map_eq_append_iff.mp heq
    obtain ⟨token, last, rfl, htoken, rfl⟩ := List.map_eq_cons_iff.mp hrest
    refine ⟨first, token, last, rfl, htoken, fun later hlater heq => hafter ?_⟩
    rw [← heq]
    exact List.mem_map_of_mem (List.mem_map_of_mem hlater)
  · rintro ⟨before, token, after, rfl, htoken, hafter⟩
    refine ⟨before.map entry, after.map entry, by simp [htoken], fun hmem => ?_⟩
    obtain ⟨w, hw⟩ := Dict.mem_keys.mp hmem
    obtain ⟨later, hlater, heq⟩ := List.mem_map.mp hw
    exact hafter later hlater (by rw [heq])

end DocQuery.Projection
