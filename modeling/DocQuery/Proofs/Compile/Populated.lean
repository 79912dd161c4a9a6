import DocQuery.Proofs.Compile.Meaning
import DocQuery.Proofs.Projection.Share
import DocQuery.Proofs.Relation.Address

/-!
# Expanding relations

* `neat_startPopulation`, `nil_not_mem_names_start`: the population to start from.
* `SharedOut`: where the fields of tokens are that were read with a population.
* **`compile_populated`**: with relations expanded a query is compiled to the same filter, order and
  bounds, and the fields of its projection are shared out between the top and the relations.
-/

namespace DocQuery

open Projection

theorem neat_startPopulation {settings : Settings} {arguments : List Text} {tree : Population}
    (h : startPopulation settings arguments = .ok tree) : tree.Neat := by
  rcases startPopulation_eq_ok h with rfl | ⟨value, hvalue⟩
  · exact ⟨List.Pairwise.nil, fun _ hr => absurd hr List.not_mem_nil⟩
  · exact Population.neat_of_parse hvalue

theorem nil_not_mem_names_start {settings : Settings} {arguments : List Text} {tree : Population}
    (h : startPopulation settings arguments = .ok tree) : [] ∉ tree.names := by
  rcases startPopulation_eq_ok h with rfl | ⟨value, hvalue⟩
  · exact List.not_mem_nil
  · exact Population.nil_not_mem_names hvalue

/-- The fields that tokens name are shared out between the top and the relations. -/
structure SharedOut (tokens : List Text) (plain top : Document) (relations : Population) :
    Prop where
  /-- Every field is there, with the sign of its last token. -/
  signs : ∀ field v, (field, v) ∈ plain ↔
    ∃ before token after, tokens = before ++ token :: after ∧ entry token = (field, v) ∧
      ∀ later ∈ after, (entry later).1 ≠ field
  /-- No field is there twice. -/
  nodup : (Dict.keys plain).Nodup
  /-- The top and the relations together have the fields. -/
  perm : plain.Perm (top ++ relations.flat)
  /-- The relations have the fields that are found at the addresses. -/
  shows : ∀ field v, (field, v) ∈ relations.flat ↔ relations.Shows field v

theorem SharedOut.of_share {tokens : List Text} {plain top : Document} {relations : Population}
    (hplain : plain = Dict.ofList (tokens.map entry)) (h : Share plain top relations) :
    SharedOut tokens plain top relations where
  signs := by
    intro field v
    rw [hplain]
    exact mem_ofList_entry
  nodup := h.nodup
  perm := h.perm
  shows := fun _ _ => Population.mem_flat h.neat

/-- **A list of fields is shared out between the top and the relations.** -/
theorem sharedOut_of_means {settings : Settings} {arguments : List Text} {tree : Population}
    {plain populated : Query} (hneat : tree.Neat) (hbare : tree.bare = tree)
    (hroots : [] ∉ tree.names)
    (hplain : plain.Means { settings with populate := false } arguments [])
    (hpopulated : populated.Means { settings with populate := true } arguments tree)
    (hlength : (Reserved.fields.values arguments).length ≤ 1)
    (hliteral : ∀ value ∈ Reserved.fields.values arguments, ∀ token ∈ value.splitOn ',',
      isLiteral token = false) :
    ∃ relations, populated.population = some relations ∧
      SharedOut ((Reserved.fields.values arguments).flatMap tokens) (plain.projection.getD [])
        (populated.projection.getD []) relations := by
  have hprojection := hplain.projection
  have hprojection' := hpopulated.projection
  have hpopulation := hpopulated.population
  rw [if_pos rfl, foldl_routeToken_filter] at hpopulation
  refine ⟨_, hpopulation, ?_⟩
  rcases hvalues : Reserved.fields.values arguments with _ | ⟨value, rest⟩
  · rw [hvalues] at hprojection hprojection'
    rw [← Except.ok.inj hprojection, ← Except.ok.inj hprojection']
    exact .of_share rfl (.nil hneat hbare)
  · rw [hvalues] at hlength hliteral hprojection hprojection'
    obtain rfl : rest = [] := by simpa using hlength
    have htokens : ∀ token ∈ tokens value, isLiteral token = false := by
      intro token htoken
      unfold tokens at htoken
      split at htoken
      · cases htoken
      · exact hliteral value List.mem_cons_self token htoken
    obtain ⟨heq, hshare⟩ := share_parse htokens hneat hbare hroots hprojection hprojection'
    rw [List.flatMap_singleton]
    exact .of_share heq hshare

/-- **What expanding relations does to a query.** The filter, the order and the bounds are the same.
If there is at most one list of fields and none of its tokens is a literal, its fields are shared
out between the top and the relations: each stands in one place, and none is lost. -/
theorem compile_populated {settings : Settings} {query : Text} {plain populated : Query}
    (hplain : compile { settings with populate := false } query = .ok plain)
    (hpopulated : compile { settings with populate := true } query = .ok populated) :
    populated.filter = plain.filter ∧ populated.sort = plain.sort ∧
      populated.skip = plain.skip ∧ populated.limit = plain.limit ∧
      ((Reserved.fields.values (arguments settings query)).length ≤ 1 →
        (∀ value ∈ Reserved.fields.values (arguments settings query),
          ∀ token ∈ value.splitOn ',', isLiteral token = false) →
        ∃ relations, populated.population = some relations ∧
          SharedOut ((Reserved.fields.values (arguments settings query)).flatMap tokens)
            (plain.projection.getD []) (populated.projection.getD []) relations) := by
  obtain ⟨_, hnone, hmeans⟩ := means_of_compileArguments hplain
  obtain ⟨tree, htree, hmeans'⟩ := means_of_compileArguments hpopulated
  obtain rfl := Except.ok.inj hnone
  obtain ⟨fragments, hfragments, hfilter⟩ := hmeans.filter
  obtain ⟨fragments', hfragments', hfilter'⟩ := hmeans'.filter
  refine ⟨?_, ?_, ?_, ?_, ?_⟩
  · have hsame : fragments = fragments' :=
      (List.map_inj_right fun _ _ => Except.ok.inj).mp (hfragments.symm.trans hfragments')
    rw [hfilter, hfilter', hsame]
  · rw [hmeans.sort, hmeans'.sort]
    rfl
  · exact Except.ok.inj (hmeans'.skip.symm.trans hmeans.skip)
  · exact Except.ok.inj (hmeans'.limit.symm.trans hmeans.limit)
  · exact sharedOut_of_means (neat_startPopulation htree) (bare_startPopulation htree)
      (nil_not_mem_names_start htree) hmeans hmeans'

/-- A query with one list of fields and two relations, one below the other. -/
def sharedQuery : Text :=
  "fields=pet.toy.name,-age,pet.name,-pet.toy.name&populate=pet,pet.toy&limit=5".toList

/-- The tokens of its list of fields. -/
def sharedFields : Text := "pet.toy.name,-age,pet.name,-pet.toy.name".toList

/-- What it is compiled to where relations are not expanded. -/
def sharedPlain : Query where
  limit := 5
  projection := some [("pet.toy.name".toList, .int32 0), ("age".toList, .int32 0),
    ("pet.name".toList, .int32 1)]

/-- What it is compiled to where they are. -/
def sharedPopulated : Query where
  limit := 5
  projection := some [("age".toList, .int32 0)]
  population := some [.mk "pet".toList (some [("name".toList, .int32 1)])
    [.mk "toy".toList (some [("name".toList, .int32 0)]) []]]

theorem compile_populated_shared :
    compile { ({} : Settings) with populate := false } sharedQuery = .ok sharedPlain ∧
      compile { ({} : Settings) with populate := true } sharedQuery = .ok sharedPopulated ∧
      sharedPopulated.filter = sharedPlain.filter ∧
      ∃ relations, sharedPopulated.population = some relations ∧
        SharedOut (tokens sharedFields) (sharedPlain.projection.getD [])
          (sharedPopulated.projection.getD []) relations := by
  have hplain : compile { ({} : Settings) with populate := false } sharedQuery = .ok sharedPlain :=
    rfl
  have hpopulated :
      compile { ({} : Settings) with populate := true } sharedQuery = .ok sharedPopulated := rfl
  have hvalues : Reserved.fields.values (arguments {} sharedQuery) = [sharedFields] := rfl
  obtain ⟨hfilter, -, -, -, hshared⟩ := @compile_populated {} _ _ _ hplain hpopulated
  rw [hvalues] at hshared
  refine ⟨hplain, hpopulated, hfilter, hshared (Nat.le_refl 1) ?_⟩
  intro value hvalue
  rw [List.mem_singleton.mp hvalue]
  decide

end DocQuery
