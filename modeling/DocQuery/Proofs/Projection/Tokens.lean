import DocQuery.Projection
import DocQuery.Proofs.Outcome
import DocQuery.Proofs.Relation.Shape

/-!
# Tokens of a projection

Where a token of a projection goes is told by the names of the relations at the top alone; no field
that has been routed before has a say in it.

* `route?`, `belongs`, `isSome_route?`: a token belongs to a relation if it has a dot, not in front,
  and its field begins with the name of one at the top. Those tokens are routed, and the others leave
  the population as it is.
* `topEntries`, `tokenError?`: what the other tokens write, and the error of a token by itself.
* **`parse_fst`**, **`parse_snd`**: reading a projection gives the entries of the tokens that belong
  to no relation, and routes the fields of the others one after the other.
* **`parse_snd_induction`**: also where it cannot be read, it does nothing else to the population.
-/

namespace DocQuery

theorem Population.isSome_route? {field : Text} (h : '.' ∈ field) (v : Value)
    (relations : Population) :
    (route? field v relations).isSome =
      relations.names.contains ((field.splitOn '.').headD []) := by
  obtain ⟨name, rest, -, -, hsplit⟩ := Text.splitOn_eq_cons h
  rw [route?_of_splitOn hsplit (List.splitOn_ne_nil '.' rest), hsplit, List.headD_cons,
    List.contains_eq_mem]
  by_cases hname : name ∈ relations.names
  · obtain ⟨before, r, after, rfl, hbefore, hr⟩ := exists_first hname
    simp only [Relation.updateFirst?_append after hbefore hr, hname, Option.map_some,
      Option.isSome_some, decide_true]
  · simp only [Relation.updateFirst?_eq_none (notNamed_iff.mpr hname), hname,
      Option.isSome_none, decide_false]

namespace Projection

open Outcome

/-! ## Routed tokens -/

/-- The first name of the field of a token. -/
def firstName (token : Text) : Text := ((signedField token).1.splitOn '.').headD []

/-- Whether a token belongs to one of the relations at the top, whose names are given. -/
def belongs (roots : List Text) (token : Text) : Bool :=
  isDotted token && roots.contains (firstName token)

/-- The population with the field of a token, if the token is dotted and its first name is that of
a relation at the top. -/
def route? (token : Text) (relations : Population) : Option Population :=
  if isDotted token then
    Population.route? (signedField token).1 (.int32 (signedField token).2) relations
  else none

theorem routeInPlace_of_some {token : Text} {relations relations' : Population}
    (h : route? token relations = some relations') :
    routeInPlace token relations = (true, relations') := by
  obtain ⟨hdotted, hroute⟩ := Option.ite_none_right_eq_some.mp h
  rw [routeInPlace, if_pos hdotted, Population.routeInPlace_of_some hroute]

/-- A token that is not routed leaves the population as it is. -/
theorem routeInPlace_of_none {token : Text} {relations : Population}
    (h : route? token relations = none) : routeInPlace token relations = (false, relations) := by
  rw [routeInPlace]
  split
  · rename_i hdotted
    rw [route?, if_pos hdotted] at h
    exact Population.routeInPlace_of_none h
  · rfl

theorem parseTokens_of_some {token : Text} {relations relations' : Population}
    (h : route? token relations = some relations') (rest : List Text) (fields : Document) :
    parseTokens (token :: rest) fields relations = parseTokens rest fields relations' := by
  rw [parseTokens, routeInPlace_of_some h]

section NotRouted

variable {token : Text} {relations : Population} (h : route? token relations = none)
  (rest : List Text) (fields : Document)

include h

theorem parseTokens_of_readEntry_ok {key : Text} {v : Value} (hentry : readEntry token = .ok (key, v)) :
    parseTokens (token :: rest) fields relations =
      parseTokens rest (Dict.insert key v fields) relations := by
  simp only [parseTokens, routeInPlace_of_none h, hentry]

theorem parseTokens_of_readEntry_error {e : QueryError} (hentry : readEntry token = .error e) :
    parseTokens (token :: rest) fields relations = (.error e, relations) := by
  simp only [parseTokens, routeInPlace_of_none h, hentry]

end NotRouted

/-- The population with the field of a token, if the token belongs to a relation. -/
def routeToken (relations : Population) (token : Text) : Population :=
  (route? token relations).getD relations

theorem mem_signedField {token : Text} (h : isDotted token = true) :
    '.' ∈ (signedField token).1 := by
  have hmem : '.' ∈ token := by
    rw [isDotted, Bool.and_eq_true] at h
    simpa using h.1
  unfold signedField
  split
  · simpa using hmem
  · exact hmem

theorem isSome_route? (token : Text) (relations : Population) :
    (route? token relations).isSome = belongs relations.names token := by
  rw [route?, belongs]
  by_cases h : isDotted token = true
  · rw [if_pos h, Population.isSome_route? (mem_signedField h), h, Bool.true_and]
    rfl
  · rw [if_neg h]
    simp [h]

theorem route?_of_belongs {token : Text} {relations : Population}
    (h : belongs relations.names token = true) :
    route? token relations = some (routeToken relations token) := by
  rw [← isSome_route?, Option.isSome_iff_exists] at h
  obtain ⟨relations', h⟩ := h
  rw [routeToken, h, Option.getD_some]

theorem route?_eq_some {token : Text} {relations relations' : Population}
    (h : route? token relations = some relations') :
    Population.route? (signedField token).1 (.int32 (signedField token).2) relations =
      some relations' := by
  unfold route? at h
  split at h
  · exact h
  · cases h

/-- Routing a token that belongs to a relation sets its field there. -/
theorem route?_signedField {token : Text} {relations : Population}
    (h : belongs relations.names token = true) :
    Population.route? (signedField token).1 (.int32 (signedField token).2) relations =
      some (routeToken relations token) :=
  route?_eq_some (route?_of_belongs h)

theorem route?_of_not_belongs {token : Text} {relations : Population}
    (h : belongs relations.names token = false) : route? token relations = none := by
  rwa [← isSome_route?, Option.isSome_eq_false_iff, Option.isNone_iff_eq_none] at h

theorem routeToken_of_not_belongs {token : Text} {relations : Population}
    (h : belongs relations.names token = false) : routeToken relations token = relations := by
  rw [routeToken, route?_of_not_belongs h, Option.getD_none]

theorem bare_routeToken (relations : Population) (token : Text) :
    (routeToken relations token).bare = relations.bare := by
  cases h : belongs relations.names token with
  | false => rw [routeToken_of_not_belongs h]
  | true => exact Population.bare_route? (route?_signedField h)

@[simp]
theorem names_routeToken (relations : Population) (token : Text) :
    (routeToken relations token).names = relations.names := by
  rw [← Population.names_bare, bare_routeToken, Population.names_bare]

theorem bare_foldl_routeToken (tokens : List Text) (relations : Population) :
    (tokens.foldl routeToken relations).bare = relations.bare := by
  induction tokens generalizing relations with
  | nil => rfl
  | cons token tokens ih => rw [List.foldl_cons, ih, bare_routeToken]

@[simp]
theorem names_foldl_routeToken (tokens : List Text) (relations : Population) :
    (tokens.foldl routeToken relations).names = relations.names := by
  rw [← Population.names_bare, bare_foldl_routeToken, Population.names_bare]

/-- Tokens that belong to no relation have no part in routing. -/
theorem foldl_routeToken_filter (tokens : List Text) (relations : Population) :
    (tokens.filter (belongs relations.names)).foldl routeToken relations =
      tokens.foldl routeToken relations := by
  induction tokens generalizing relations with
  | nil => rfl
  | cons token tokens ih =>
    cases h : belongs relations.names token with
    | true =>
      have hnames := names_routeToken relations token
      rw [List.filter_cons_of_pos h, List.foldl_cons, List.foldl_cons, ← ih, hnames]
    | false =>
      rw [List.filter_cons_of_neg (by simp [h]), List.foldl_cons, routeToken_of_not_belongs h, ih]

/-! ## Entries at the top -/

/-- The tokens of a value. An empty value has none. -/
def tokens (value : Text) : List Text := if value.isEmpty then [] else value.splitOn ','

/-- The entries of the tokens that belong to no relation. -/
def topEntries (roots : List Text) (tokens : List Text) :
    Except QueryError (List (Text × Value)) :=
  (tokens.filter fun token => !belongs roots token).mapM readEntry

/-- The error of a token by itself: it belongs to no relation and is a literal that cannot be
read. -/
def tokenError? (roots : List Text) (token : Text) : Option QueryError :=
  if belongs roots token || !isLiteral token then none
  else error? ((readLiteral token).mapError (.literal token))

theorem error?_readEntry (token : Text) :
    error? (readEntry token) =
      if isLiteral token then error? ((readLiteral token).mapError (.literal token)) else none := by
  unfold readEntry
  split
  · simp [isLiteral, error?]
  · split <;> rfl

theorem tokenError?_eq (roots : List Text) (token : Text) :
    tokenError? roots token = if belongs roots token then none else error? (readEntry token) := by
  rw [tokenError?, error?_readEntry]
  cases belongs roots token <;> cases isLiteral token <;> rfl

theorem topEntries_cons_of_belongs {roots : List Text} {token : Text} (tokens : List Text)
    (h : belongs roots token = true) :
    topEntries roots (token :: tokens) = topEntries roots tokens := by
  rw [topEntries, List.filter_cons_of_neg (by simp [h])]
  rfl

theorem topEntries_cons_of_not_belongs {roots : List Text} {token : Text} (tokens : List Text)
    (h : belongs roots token = false) :
    topEntries roots (token :: tokens) =
      (readEntry token >>= fun entry => (topEntries roots tokens).map (entry :: ·)) := by
  rw [topEntries, List.filter_cons_of_pos (by simp [h]), List.mapM_cons]
  cases readEntry token <;> rfl

/-- **Reading the tokens at the top fails with the error of the first token that has one.** -/
theorem topEntries_eq_error {roots tokens : List Text} {e : QueryError} :
    topEntries roots tokens = .error e ↔ tokens.findSome? (tokenError? roots) = some e := by
  induction tokens with
  | nil => simp [topEntries, pure, Except.pure]
  | cons token tokens ih =>
    rw [List.findSome?_cons, tokenError?_eq]
    cases hbelongs : belongs roots token with
    | true => rw [topEntries_cons_of_belongs tokens hbelongs, ih, if_pos rfl]
    | false =>
      rw [topEntries_cons_of_not_belongs tokens hbelongs, if_neg Bool.false_ne_true]
      cases hentry : readEntry token with
      | error e' => simp [error?, bind, Except.bind]
      | ok entry => simp [error?, bind, Except.bind, map_eq_error, ih]

/-! ## Reading a projection -/

theorem parseTokens_fst (tokens : List Text) (fields : Document) (relations : Population) :
    (parseTokens tokens fields relations).1 =
      (topEntries relations.names tokens).map (Dict.insertAll · fields) := by
  induction tokens generalizing fields relations with
  | nil => rfl
  | cons token tokens ih =>
    cases hbelongs : belongs relations.names token with
    | true =>
      rw [parseTokens_of_some (route?_of_belongs hbelongs),
        topEntries_cons_of_belongs tokens hbelongs, ih, names_routeToken]
    | false =>
      have hroute := route?_of_not_belongs hbelongs
      rw [topEntries_cons_of_not_belongs tokens hbelongs]
      cases hentry : readEntry token with
      | error e =>
        rw [parseTokens_of_readEntry_error hroute tokens fields hentry]
        rfl
      | ok entry =>
        rw [parseTokens_of_readEntry_ok hroute tokens fields hentry, ih]
        simp only [bind, Except.bind]
        cases topEntries relations.names tokens <;> rfl

theorem parseTokens_snd {tokens : List Text} {fields result : Document} {relations : Population}
    (h : (parseTokens tokens fields relations).1 = .ok result) :
    (parseTokens tokens fields relations).2 = tokens.foldl routeToken relations := by
  induction tokens generalizing fields relations with
  | nil => rfl
  | cons token tokens ih =>
    rw [List.foldl_cons]
    cases hbelongs : belongs relations.names token with
    | true =>
      rw [parseTokens_of_some (route?_of_belongs hbelongs)] at h ⊢
      exact ih h
    | false =>
      have hroute := route?_of_not_belongs hbelongs
      rw [routeToken_of_not_belongs hbelongs]
      cases hentry : readEntry token with
      | error e =>
        rw [parseTokens_of_readEntry_error hroute tokens fields hentry] at h
        cases h
      | ok entry =>
        rw [parseTokens_of_readEntry_ok hroute tokens fields hentry] at h ⊢
        exact ih h

/-- **What a projection says at the top.** It depends on the population only through the names of
the relations at the top. -/
theorem parse_fst (value : Text) (relations : Population) :
    (parse value relations).1 =
      (topEntries relations.names (tokens value)).map fun entries =>
        ofFields (Dict.ofList entries) := by
  unfold parse tokens
  split
  · rfl
  · simp only [parseTokens_fst]
    cases topEntries relations.names (value.splitOn ',') <;> rfl

/-- **What a projection does to the population.** It routes its tokens in their order. -/
theorem parse_snd {value : Text} {relations : Population} {result : Option Document}
    (h : (parse value relations).1 = .ok result) :
    (parse value relations).2 = (tokens value).foldl routeToken relations := by
  unfold parse at h ⊢
  unfold tokens
  split
  · rfl
  · rename_i hvalue
    rw [if_neg hvalue] at h
    obtain ⟨fields, hfields, -⟩ := map_eq_ok.mp h
    exact parseTokens_snd hfields

/-- **Whether or not a projection can be read**, it does nothing to the population but to route
fields with their signs, one after the other. -/
theorem parse_snd_induction {motive : Population → Prop}
    (route : ∀ field sign relations relations',
      Population.route? field (.int32 sign) relations = some relations' → motive relations →
        motive relations')
    (value : Text) {relations : Population} (h : motive relations) :
    motive (parse value relations).2 := by
  have htokens : ∀ (tokens : List Text) (fields : Document) (relations : Population),
      motive relations → motive (parseTokens tokens fields relations).2 := by
    intro tokens
    induction tokens with
    | nil => exact fun _ _ h => h
    | cons token tokens ih =>
      intro fields relations h
      cases hroute : route? token relations with
      | some relations' =>
        rw [parseTokens_of_some hroute]
        exact ih _ _ (route _ _ _ _ (route?_eq_some hroute) h)
      | none =>
        cases hentry : readEntry token with
        | ok entry =>
          rw [parseTokens_of_readEntry_ok hroute tokens fields hentry]
          exact ih _ _ h
        | error e => rwa [parseTokens_of_readEntry_error hroute tokens fields hentry]
  unfold parse
  split
  · exact h
  · exact htokens _ _ _ h

theorem parse_fst_eq_error {value : Text} {relations : Population} {e : QueryError} :
    (parse value relations).1 = .error e ↔
      (tokens value).findSome? (tokenError? relations.names) = some e := by
  rw [parse_fst, map_eq_error, topEntries_eq_error]

end Projection

end DocQuery
