import DocQuery.Proofs.Compile.Arguments
import DocQuery.Proofs.Compile.Meaning
import DocQuery.Proofs.Filter.Form

/-!
# Arguments that are left out

An argument that assigns to a name of the blacklist is left out before anything is read from it. What
is left cannot ask a field of that name to equal a value.

* `Assigns`, `arguments_eq`: the arguments that count are those that assign to no such name.
* `Settings.Blocks`, `arguments_joined_blocked`: a part of a query string that has no such argument.
* **`compile_omission`**: a query means what its remaining arguments mean without a blacklist, and
  nothing that is left out, put in or changed in the others has an effect.
* `operator_of_fragmentOf?`, `Filter.exists_operators_of_mem`: what remains asks a field of the
  blacklist for operators, and operators are what the filter has on it.
* **`compile_blacklisted`**: what a compiled query says about a name of the blacklist.
-/

namespace DocQuery

/-! ## Remaining arguments -/

/-- Whether an argument assigns a value to one of some names. -/
def Assigns (names : List Text) (argument : Text) : Prop := ∃ name ∈ names, name ++ ['='] <+: argument

instance (names : List Text) (argument : Text) : Decidable (Assigns names argument) := by
  unfold Assigns
  infer_instance

theorem omits_iff {settings : Settings} {argument : Text} :
    settings.omits argument = true ↔ Assigns settings.blacklist argument := by
  rw [Settings.omits, List.any_eq_true]
  simp only [List.isPrefixOf_iff_prefix]
  rfl

theorem arguments_eq (settings : Settings) (query : Text) :
    arguments settings query =
      (allArguments query).filter fun a => ¬ Assigns settings.blacklist a := by
  rw [arguments]
  refine List.filter_congr fun a _ => ?_
  by_cases h : Assigns settings.blacklist a
  · simp [omits_iff.mpr h, h]
  · have homits : settings.omits a = false := by
      rw [← Bool.not_eq_true, omits_iff]
      exact h
    simp [homits, h]

theorem not_assigns_of_mem {settings : Settings} {query argument : Text}
    (h : argument ∈ arguments settings query) : ¬ Assigns settings.blacklist argument := by
  rw [arguments_eq, List.mem_filter] at h
  exact of_decide_eq_true h.2

theorem compile_blacklist_nil (settings : Settings) (query : Text) :
    compile { settings with blacklist := [] } query =
      compileArguments settings (allArguments query) := by
  have hall : arguments { settings with blacklist := [] } query = allArguments query :=
    List.filter_eq_self.mpr fun _ _ => rfl
  rw [compile, hall]
  rfl

theorem compile_congr {settings : Settings} {query query' : Text}
    (h : arguments settings query = arguments settings query') :
    compile settings query = compile settings query' := by
  rw [compile, h, compile]

/-! ## Parts that are left out -/

/-- A part of a query string is an assignment to a name of the blacklist. -/
def Settings.Blocks (settings : Settings) (part : Text) : Prop :=
  ∃ name ∈ settings.blacklist, ∃ value,
    '&' ∉ name ++ value ∧ Percent.decode part = name ++ '=' :: value

theorem arguments_joined (settings : Settings) (parts : List Text) :
    arguments settings (joined parts) = parts.flatMap (arguments settings) := by
  rw [arguments, allArguments_joined, List.filter_flatMap]
  rfl

theorem arguments_of_blocks {settings : Settings} {part : Text} (h : settings.Blocks part) :
    arguments settings part = [] := by
  obtain ⟨name, hname, value, hsep, hdecode⟩ := h
  have hassigns : Assigns settings.blacklist (name ++ '=' :: value) :=
    ⟨name, hname, value, by simp⟩
  have hnot : '&' ∉ name ++ '=' :: value := by
    rw [List.mem_append, not_or] at hsep
    simpa using hsep
  rw [arguments_eq, allArguments_of_decode hdecode hnot, List.filter_eq_nil_iff]
  intro argument hargument
  obtain rfl := List.mem_singleton.mp (List.mem_filter.mp hargument).1
  simpa using hassigns

theorem arguments_joined_blocked {settings : Settings} {part : Text} (h : settings.Blocks part)
    (before after : List Text) :
    arguments settings (joined (before ++ part :: after)) =
      arguments settings (joined (before ++ after)) := by
  rw [arguments_joined, arguments_joined, List.flatMap_append, List.flatMap_append,
    List.flatMap_cons, arguments_of_blocks h, List.nil_append]

/-- **Arguments that are left out have no effect.** A query is compiled, to a result or an error, as
any query whose arguments are the remaining ones is without a blacklist, and there is such a query.
So queries with the same remaining arguments are compiled to the same. In particular an assignment
to a name of the blacklist, whatever its value, can be put in, taken out or changed anywhere in a
query string. -/
theorem compile_omission (settings : Settings) :
    (∀ query query',
      allArguments query' =
          (allArguments query).filter (fun a => ¬ Assigns settings.blacklist a) →
        compile { settings with blacklist := [] } query' = compile settings query) ∧
      (∀ query, ∃ query', allArguments query' =
        (allArguments query).filter fun a => ¬ Assigns settings.blacklist a) ∧
      (∀ query query',
        (allArguments query).filter (fun a => ¬ Assigns settings.blacklist a) =
            (allArguments query').filter (fun a => ¬ Assigns settings.blacklist a) →
          compile settings query = compile settings query') ∧
      (∀ before part after, settings.Blocks part →
        compile settings (joined (before ++ part :: after)) =
          compile settings (joined (before ++ after))) ∧
      ∀ before part part' after, settings.Blocks part → settings.Blocks part' →
        compile settings (joined (before ++ part :: after)) =
          compile settings (joined (before ++ part' :: after)) := by
  have hremove : ∀ before part after, settings.Blocks part →
      compile settings (joined (before ++ part :: after)) =
        compile settings (joined (before ++ after)) :=
    fun before _ after hpart => compile_congr (arguments_joined_blocked hpart before after)
  refine ⟨fun query query' h => ?_, fun query => ?_, fun query query' h => ?_, hremove, ?_⟩
  · rw [compile_blacklist_nil, h, ← arguments_eq, compile]
  · exact ⟨written _, allArguments_written fun _ hmem =>
      mem_allArguments (List.mem_filter.mp hmem).1⟩
  · rw [← arguments_eq, ← arguments_eq] at h
    exact compile_congr h
  · intro before part part' after hpart hpart'
    rw [hremove before part after hpart, hremove before part' after hpart']

/-- Options that leave out the arguments on a field and those that ask for relations. -/
def withheld : Settings where
  blacklist := ["age".toList, "populate".toList]
  populate := true

/-- A part whose name is escaped and whose value is no plain one. -/
def escapedPart : Text := "%61ge=5==6".toList

/-- Another part with that name. -/
def emptyPart : Text := "age=".toList

/-- The parts before. -/
def partsBefore : List Text := ["populate=pet(".toList, "name=al".toList]

/-- The parts after, where the field is asked for an operator. -/
def partsAfter : List Text := ["age>5".toList, "populate=toy.maker".toList]

/-- What is left of them. -/
def keptQuery : Text := "name=al&age>5".toList

/-- What it is compiled to. -/
def keptResult : Query where
  filter := [
    ("name".toList, .string "al".toList),
    ("age".toList, .document [("$gt".toList, .int64 5)])]
  population := some []

theorem compile_omission_escaped :
    (withheld.Blocks escapedPart ∧ withheld.Blocks emptyPart) ∧
      compile { withheld with blacklist := [] } keptQuery = .ok keptResult ∧
      compile withheld (joined (partsBefore ++ escapedPart :: partsAfter)) = .ok keptResult ∧
      compile withheld (joined (partsBefore ++ emptyPart :: partsAfter)) = .ok keptResult ∧
      compile withheld (joined (partsBefore ++ partsAfter)) = .ok keptResult ∧
      compile withheld keptQuery = .ok keptResult := by
  obtain ⟨hkept, -, hsame, hremove, hchange⟩ := compile_omission withheld
  have hescaped : withheld.Blocks escapedPart :=
    ⟨"age".toList, by decide, "5==6".toList, by decide, by decide⟩
  have hempty : withheld.Blocks emptyPart :=
    ⟨"age".toList, by decide, [], by decide, by decide⟩
  have hresult : compile { withheld with blacklist := [] } keptQuery = .ok keptResult := rfl
  have hwhole : compile withheld (joined (partsBefore ++ escapedPart :: partsAfter)) =
      .ok keptResult := (hkept _ keptQuery (by decide)).symm.trans hresult
  exact ⟨⟨hescaped, hempty⟩, hresult, hwhole,
    (hchange partsBefore emptyPart escapedPart partsAfter hempty hescaped).trans hwhole,
    (hremove partsBefore escapedPart partsAfter hescaped).symm.trans hwhole,
    (hsame keptQuery _ (by decide)).trans hwhole⟩

/-! ## Names that are left out -/

/-- The operators that do not ask a field to equal a value. -/
def unequalKeywords : List Text :=
  ["$ne".toList, "$nin".toList, "$gt".toList, "$gte".toList, "$lt".toList, "$lte".toList,
    "$exists".toList]

theorem Comparison.keyword_mem_unequalKeywords {comparison : Comparison}
    (h : comparison ≠ .equals) : comparison.keyword ∈ unequalKeywords := by
  cases comparison with
  | equals => exact absurd rfl h
  | _ => decide

/-- Only an assignment to its field asks for equality. -/
theorem Fragment.operator_of_parse {casters : CasterTable} {argument : Text} {fragment : Fragment}
    (h : parse casters argument = .ok fragment) (hkept : ¬ fragment.field ++ ['='] <+: argument) :
    ∃ key ∈ unequalKeywords, ∃ v, fragment.condition = .operator key v := by
  rcases parse_cases h with ⟨field, b, rfl⟩ | ⟨comparison, raw, v, heq, -, -, hcompare⟩
  · exact ⟨existsKeyword, by decide, _, rfl⟩
  · have hcomparison : comparison ≠ .equals := by
      rintro rfl
      exact hkept ⟨raw, heq.symm⟩
    rcases compare_cases hcompare with ⟨items, -, ⟨hequals, -⟩ | ⟨-, hcondition⟩⟩ |
      ⟨-, ⟨hequals, -⟩ | ⟨-, hcondition⟩⟩
    · exact absurd hequals hcomparison
    · exact ⟨notInKeyword, by decide, v, hcondition⟩
    · exact absurd hequals hcomparison
    · exact ⟨comparison.keyword, Comparison.keyword_mem_unequalKeywords hcomparison, v, hcondition⟩

theorem Reserved.opening_append {argument value : Text} {name : Reserved}
    (h : ofArgument? argument = some (name, value)) : name.opening ++ value = argument := by
  obtain ⟨other, -, hother⟩ := List.exists_of_findSome?_eq_some h
  obtain ⟨value', hvalue, heq⟩ := Option.map_eq_some_iff.mp hother
  cases heq
  exact Text.eq_of_isPrefixOf? hvalue

theorem Fragment.field_search {phrase : Text} {fragment : Fragment}
    (h : search phrase = .ok fragment) : fragment.field = textKeyword := by
  unfold search at h
  split at h
  · cases h
  · cases h
    rfl

/-- **What does not assign to its field** asks it for an operator other than to be equal. -/
theorem operator_of_fragmentOf? {casters : CasterTable} {argument : Text} {fragment : Fragment}
    (h : fragmentOf? casters argument = some (.ok fragment))
    (hkept : ¬ fragment.field ++ ['='] <+: argument) :
    ∃ key ∈ unequalKeywords, ∃ v, fragment.condition = .operator key v := by
  unfold fragmentOf? at h
  split at h
  · rename_i phrase harg
    -- a search is an assignment to its field
    rw [Fragment.field_search (Option.some.inj h)] at hkept
    exact absurd ⟨phrase, Reserved.opening_append harg⟩ hkept
  · cases h
  · exact Fragment.operator_of_parse (Option.some.inj h) hkept

/-- **Operators are joined with operators only**: a field that is never asked to equal a value has
nothing but operators in the filter. -/
theorem Filter.exists_operators_of_mem {keywords : List Text} {fragments : List Fragment}
    {field : Text}
    (h : ∀ fragment ∈ fragments, fragment.field = field →
      ∃ key ∈ keywords, ∃ v, fragment.condition = .operator key v)
    {v : Value} (hv : (field, v) ∈ fragments.foldl merge []) :
    ∃ ops, v = .document ops ∧ ∀ key ∈ Dict.keys ops, key ∈ keywords := by
  refine forall_mem_foldl_merge (P := fun other v => other = field →
    ∃ ops, v = .document ops ∧ ∀ key ∈ Dict.keys ops, key ∈ keywords) ?_ field v hv rfl
  intro fragment hmem before hbefore hfield
  obtain ⟨key, hkey, w, hcondition⟩ := h fragment hmem hfield
  rw [hcondition]
  cases before with
  | none =>
    refine ⟨_, rfl, fun k hk => ?_⟩
    rwa [List.mem_singleton.mp hk]
  | some d =>
    obtain ⟨_, heq, hd⟩ := hbefore d rfl hfield
    cases heq
    refine ⟨_, rfl, fun k hk => ?_⟩
    rcases Dict.mem_keys_insertAll.mp hk with hk | hk
    · rwa [List.mem_singleton.mp hk]
    · exact hd k hk

section Blacklisted

variable {settings : Settings} {query name : Text}

theorem not_prefix_of_mem (hname : name ∈ settings.blacklist) {argument : Text}
    (h : argument ∈ arguments settings query) : ¬ name ++ ['='] <+: argument :=
  fun hprefix => not_assigns_of_mem h ⟨name, hname, hprefix⟩

/-- A reserved name that is left out has no values. -/
theorem values_blacklisted (hname : name ∈ settings.blacklist) {reserved : Reserved}
    (hopening : name ++ ['='] = reserved.opening) :
    reserved.values (arguments settings query) = [] := by
  refine List.filterMap_eq_nil_iff.mpr fun argument hargument => ?_
  have hkept := not_prefix_of_mem hname hargument
  rw [hopening] at hkept
  unfold Reserved.value?
  rcases harg : Reserved.ofArgument? argument with _ | ⟨other, value⟩
  · rfl
  · refine if_neg fun heq => hkept ⟨value, ?_⟩
    rw [← heq]
    exact Reserved.opening_append harg

theorem population_blacklisted (hname : name ∈ settings.blacklist)
    (hopening : name ++ ['='] = Reserved.opening .populate) {tree : Population}
    (htree : startPopulation settings (arguments settings query) = .ok tree) : tree = [] := by
  rw [startPopulation, requestedPopulation, filterMap_relationList?,
    values_blacklisted hname hopening] at htree
  split at htree
  · exact (Except.ok.inj htree).symm
  · exact (Except.ok.inj htree).symm

end Blacklisted

/-- **A name of the blacklist is never asked to equal a value.** Each remaining argument on such a
field asks it for an operator that is no equality, and so the filter has nothing but such operators
on it. A reserved name of the blacklist has no effect: nothing is sorted, left out, cut off,
projected or expanded. -/
theorem compile_blacklisted {settings : Settings} {query name : Text} {q : Query}
    (hname : name ∈ settings.blacklist) (h : compile settings query = .ok q) :
    (∀ v, (name, v) ∈ q.filter →
        ∃ ops, v = .document ops ∧ ∀ key ∈ Dict.keys ops, key ∈ unequalKeywords) ∧
      (∀ argument ∈ arguments settings query, ∀ fragment,
        fragmentOf? settings.casters argument = some (.ok fragment) → fragment.field = name →
          ∃ key ∈ unequalKeywords, ∃ v, fragment.condition = .operator key v) ∧
      (name = "sort".toList → q.sort = none) ∧ (name = "limit".toList → q.limit = 0) ∧
      (name = "skip".toList → q.skip = 0) ∧ (name = "fields".toList → q.projection = none) ∧
      (name = "populate".toList → q.population = none ∨ q.population = some []) := by
  obtain ⟨tree, htree, hmeans⟩ := means_of_compileArguments h
  obtain ⟨fragments, hfragments, hfilter⟩ := hmeans.filter
  have hoperator : ∀ argument ∈ arguments settings query, ∀ fragment,
      fragmentOf? settings.casters argument = some (.ok fragment) → fragment.field = name →
        ∃ key ∈ unequalKeywords, ∃ v, fragment.condition = .operator key v := by
    rintro argument hargument fragment hfragment rfl
    exact operator_of_fragmentOf? hfragment (not_prefix_of_mem hname hargument)
  refine ⟨fun v hv => ?_, hoperator, ?_, ?_, ?_, ?_, ?_⟩
  · rw [hfilter] at hv
    refine Filter.exists_operators_of_mem (fun fragment hmem hfield => ?_) hv
    obtain ⟨argument, hargument, hfragment⟩ := exists_of_mem_fragments hfragments hmem
    exact hoperator argument hargument fragment hfragment hfield
  · rintro rfl
    rw [hmeans.sort, values_blacklisted hname rfl]
    rfl
  · rintro rfl
    have hlimit := hmeans.limit
    rw [values_blacklisted hname rfl] at hlimit
    exact (Except.ok.inj hlimit).symm
  · rintro rfl
    have hskip := hmeans.skip
    rw [values_blacklisted hname rfl] at hskip
    exact (Except.ok.inj hskip).symm
  · rintro rfl
    have hprojection := hmeans.projection
    rw [values_blacklisted hname rfl] at hprojection
    exact (Except.ok.inj hprojection).symm
  · rintro rfl
    obtain rfl := population_blacklisted hname rfl htree
    cases hpopulation : q.population with
    | none => exact .inl rfl
    | some relations =>
      have hbare := hmeans.shape relations hpopulation
      rw [Population.bare_eq_map, List.map_eq_nil_iff] at hbare
      exact .inr (congrArg some hbare)

/-- A query that spells a name of the blacklist in many ways. -/
def spelledQuery : Text := "%61ge=3&age==4&age!=5,6&age>=7&age=8&!age&name=al&populate=pet".toList

/-- What it is compiled to. -/
def spelledResult : Query where
  filter := [
    ("age".toList, .document [
      ("$nin".toList, .array [.int64 5, .int64 6]), ("$gte".toList, .int64 7),
      ("$exists".toList, .bool false)]),
    ("name".toList, .string "al".toList)]
  population := some []

theorem compile_blacklisted_spelled :
    ("age".toList ∈ withheld.blacklist ∧ "populate".toList ∈ withheld.blacklist) ∧
      compile withheld spelledQuery = .ok spelledResult ∧
      (∀ v, ("age".toList, v) ∈ spelledResult.filter →
        ∃ ops, v = .document ops ∧ ∀ key ∈ Dict.keys ops, key ∈ unequalKeywords) ∧
      (spelledResult.population = none ∨ spelledResult.population = some []) := by
  have hage : "age".toList ∈ withheld.blacklist := by decide
  have hpopulate : "populate".toList ∈ withheld.blacklist := by decide
  have h : compile withheld spelledQuery = .ok spelledResult := rfl
  exact ⟨⟨hage, hpopulate⟩, h, (compile_blacklisted hage h).1,
    (compile_blacklisted hpopulate h).2.2.2.2.2.2 rfl⟩

end DocQuery
