import DocQuery.Proofs.Compile.Meaning
import DocQuery.Proofs.Filter.Operator
import DocQuery.Proofs.Order.Reordering

/-!
# Reordering arguments

* `Conflicts`: arguments that have to stay in order, because they give a value to the same reserved
  name or ask for the same of a field.
* `values_reordering`, `filter_settles_reordering`: what a reordering leaves as it is.
* **`compile_reordering`**: queries whose arguments are a reordering of each other mean the same.
-/

namespace DocQuery

/-! ## Conflicts -/

/-- Two fragments are on the same field, and one is a value to equal or both have an operator in
common. -/
def Fragment.Conflicts (a b : Fragment) : Prop :=
  a.field = b.field ∧
    ((∃ v, a.condition = .equals v) ∨ (∃ v, b.condition = .equals v) ∨
      ∃ ops ops' key, a.condition = .operators ops ∧ b.condition = .operators ops' ∧
        key ∈ Dict.keys ops ∧ key ∈ Dict.keys ops')

/-- Two arguments have the same reserved name, other than that of a search, or their fragments
conflict. -/
def Conflicts (casters : CasterTable) (a b : Text) : Prop :=
  (∃ name, name ≠ .text ∧ Reserved.name? a = some name ∧ Reserved.name? b = some name) ∨
    ∃ f g, fragmentOf? casters a = some (.ok f) ∧ fragmentOf? casters b = some (.ok g) ∧
      f.Conflicts g

theorem Fragment.conflicts_of_settles {a b : Fragment} {field key : Text}
    (ha : a.settles field key = true) (hb : b.settles field key = true) : a.Conflicts b := by
  rw [settles, Bool.and_eq_true, decide_eq_true_iff] at ha hb
  refine ⟨ha.1.trans hb.1.symm, ?_⟩
  cases hca : a.condition with
  | equals v => exact .inl ⟨v, rfl⟩
  | operators ops =>
    cases hcb : b.condition with
    | equals v => exact .inr (.inl ⟨v, rfl⟩)
    | operators ops' =>
      rw [hca] at ha
      rw [hcb] at hb
      have hkey : key ∈ Dict.keys ops := List.contains_iff_mem.mp ha.2
      have hkey' : key ∈ Dict.keys ops' := List.contains_iff_mem.mp hb.2
      exact .inr (.inr ⟨ops, ops', key, rfl, rfl, hkey, hkey'⟩)

theorem single_of_fragmentOf? {casters : CasterTable} {argument : Text} {fragment : Fragment}
    (h : fragmentOf? casters argument = some (.ok fragment)) : fragment.condition.Single := by
  rcases fragmentOf?_eq_ok h with ⟨phrase, hphrase⟩ | hparse
  · exact Fragment.single_search hphrase
  · exact Fragment.single_parse hparse

/-- The fragment of an outcome, if it settles an operator of a field. -/
def settled? (field key : Text) : Except QueryError Fragment → Option Fragment
  | .ok fragment => if fragment.settles field key then some fragment else none
  | .error _ => none

theorem filter_settles_eq {casters : CasterTable} {arguments : List Text}
    {fragments : List Fragment}
    (h : arguments.filterMap (fragmentOf? casters) = fragments.map .ok) (field key : Text) :
    fragments.filter (Fragment.settles field key) =
      arguments.filterMap fun a => (fragmentOf? casters a).bind (settled? field key) := by
  rw [← List.filterMap_filterMap, h, List.filterMap_map, ← List.filterMap_eq_filter]
  rfl

/-! ## What a reordering leaves as it is -/

section Reordering

variable {casters : CasterTable} {arguments arguments' : List Text}

theorem values_reordering (h : Reordering (Conflicts casters) arguments arguments')
    {name : Reserved} (hname : name ≠ .text) : name.values arguments' = name.values arguments := by
  have hreserved : ∀ a, (name.value? a).isSome → Reserved.name? a = some name := by
    intro a ha
    unfold Reserved.value? at ha
    unfold Reserved.name?
    split at ha
    · rename_i other value harg
      split at ha
      · rename_i heq
        rw [harg, ← heq]
        rfl
      · cases ha
    · cases ha
  exact h.filterMap_eq fun a b ha hb => .inl ⟨name, hname, hreserved a ha, hreserved b hb⟩

theorem filter_settles_reordering (h : Reordering (Conflicts casters) arguments arguments')
    {fragments fragments' : List Fragment}
    (hfragments : arguments.filterMap (fragmentOf? casters) = fragments.map .ok)
    (hfragments' : arguments'.filterMap (fragmentOf? casters) = fragments'.map .ok)
    (field key : Text) :
    fragments'.filter (Fragment.settles field key) =
      fragments.filter (Fragment.settles field key) := by
  have hsettled : ∀ a, ((fragmentOf? casters a).bind (settled? field key)).isSome →
      ∃ f, fragmentOf? casters a = some (.ok f) ∧ f.settles field key = true := by
    intro a ha
    cases houtcome : fragmentOf? casters a with
    | none => simp [houtcome] at ha
    | some outcome =>
      cases outcome with
      | error e => simp [houtcome, settled?] at ha
      | ok f => exact ⟨f, rfl, by simpa [houtcome, settled?] using ha⟩
  rw [filter_settles_eq hfragments, filter_settles_eq hfragments']
  refine h.filterMap_eq fun a b ha hb => ?_
  obtain ⟨f, hf, hsettles⟩ := hsettled a ha
  obtain ⟨g, hg, hsettles'⟩ := hsettled b hb
  exact .inr ⟨f, g, hf, hg, Fragment.conflicts_of_settles hsettles hsettles'⟩

theorem single_of_filterMap {fragments : List Fragment}
    (h : arguments.filterMap (fragmentOf? casters) = fragments.map .ok) :
    ∀ fragment ∈ fragments, fragment.condition.Single := by
  intro fragment hfragment
  obtain ⟨a, -, ha⟩ := exists_of_mem_fragments h hfragment
  exact single_of_fragmentOf? ha

end Reordering

theorem startPopulation_reordering {settings : Settings} {arguments arguments' : List Text}
    (h : Reordering (Conflicts settings.casters) arguments arguments') :
    startPopulation settings arguments' = startPopulation settings arguments := by
  have hlists : Reserved.populate.values arguments' = Reserved.populate.values arguments :=
    values_reordering h (by decide)
  rw [startPopulation, startPopulation, requestedPopulation_congr hlists]

/-! ## Compiling -/

theorem exists_compileArguments_reordering {settings : Settings} {arguments arguments' : List Text}
    (h : Reordering (Conflicts settings.casters) arguments arguments') :
    (∃ q, compileArguments settings arguments' = .ok q) ↔
      ∃ q, compileArguments settings arguments = .ok q := by
  rw [exists_compileArguments_iff, exists_compileArguments_iff, startPopulation_reordering h]
  simp only [h.mem_iff]

/-- **Queries whose arguments are reordered mean the same.** One of them is compiled if and only if
the other is. Everything but the filter is then the same, and the filters are the same but for the
order of fields and of the operators of a field. -/
theorem compile_reordering {settings : Settings} {query query' : Text}
    (h : Reordering (Conflicts settings.casters) (arguments settings query)
      (arguments settings query')) :
    ((∃ q', compile settings query' = .ok q') ↔ ∃ q, compile settings query = .ok q) ∧
      ∀ q q', compile settings query = .ok q → compile settings query' = .ok q' →
        q'.sort = q.sort ∧ q'.skip = q.skip ∧ q'.limit = q.limit ∧
          q'.projection = q.projection ∧ q'.population = q.population ∧
          SameFilter q.filter q'.filter := by
  refine ⟨exists_compileArguments_reordering h, fun q q' hq hq' => ?_⟩
  obtain ⟨tree, htree, hmeans⟩ := means_of_compileArguments hq
  obtain ⟨tree', htree', hmeans'⟩ := means_of_compileArguments hq'
  rw [startPopulation_reordering h] at htree'
  obtain rfl : tree = tree' := Except.ok.inj (htree.symm.trans htree')
  have hvalues : ∀ name : Reserved, name ≠ .text →
      name.values (arguments settings query') = name.values (arguments settings query) :=
    fun _ hname => values_reordering h hname
  refine ⟨?_, ?_, ?_, ?_, ?_, ?_⟩
  · rw [hmeans'.sort, hvalues .sort (by decide), hmeans.sort]
  · have hskip := hmeans'.skip
    rw [hvalues .skip (by decide), hmeans.skip] at hskip
    exact (Except.ok.inj hskip).symm
  · have hlimit := hmeans'.limit
    rw [hvalues .limit (by decide), hmeans.limit] at hlimit
    exact (Except.ok.inj hlimit).symm
  · have hprojection := hmeans'.projection
    rw [hvalues .fields (by decide), hmeans.projection] at hprojection
    exact (Except.ok.inj hprojection).symm
  · rw [hmeans'.population, hvalues .fields (by decide), hmeans.population]
  · obtain ⟨fragments, hfragments, hfilter⟩ := hmeans.filter
    obtain ⟨fragments', hfragments', hfilter'⟩ := hmeans'.filter
    rw [hfilter, hfilter']
    exact sameFilter_foldl (single_of_filterMap hfragments) (single_of_filterMap hfragments')
      (filter_settles_reordering h hfragments hfragments')

/-- Three bounds on one field. The first and the last conflict. -/
def orderedQuery : Text := "age>3&age<9&age>5".toList

/-- What they are compiled to. -/
def orderedResult : Query where
  filter := [("age".toList, .document [("$gt".toList, .int64 5), ("$lt".toList, .int64 9)])]

/-- The same with the second bound in front. -/
def reorderedQuery : Text := "age<9&age>3&age>5".toList

/-- What they are compiled to. -/
def reorderedResult : Query where
  filter := [("age".toList, .document [("$lt".toList, .int64 9), ("$gt".toList, .int64 5)])]

theorem not_conflicts_bounds : ¬ Conflicts [] "age>3".toList "age<9".toList := by
  have hname : Reserved.name? "age>3".toList = none := rfl
  have hf : fragmentOf? [] "age>3".toList =
      some (.ok ⟨"age".toList, .operator "$gt".toList (.int64 3)⟩) := rfl
  have hg : fragmentOf? [] "age<9".toList =
      some (.ok ⟨"age".toList, .operator "$lt".toList (.int64 9)⟩) := rfl
  rintro (⟨name, -, hreserved, -⟩ | ⟨f, g, hf', hg', -, hconflict⟩)
  · rw [hname] at hreserved
    cases hreserved
  · obtain rfl := Except.ok.inj (Option.some.inj (hf.symm.trans hf'))
    obtain rfl := Except.ok.inj (Option.some.inj (hg.symm.trans hg'))
    rcases hconflict with ⟨v, hv⟩ | ⟨v, hv⟩ | ⟨ops, ops', key, hops, hops', hkey, hkey'⟩
    · cases hv
    · cases hv
    · cases hops
      cases hops'
      have heq := List.mem_singleton.mp hkey
      have heq' := List.mem_singleton.mp hkey'
      exact absurd (heq.symm.trans heq') (by decide)

theorem reordering_bounds :
    Reordering (Conflicts []) (arguments {} orderedQuery) (arguments {} reorderedQuery) := by
  have harguments : arguments {} orderedQuery =
      ["age>3".toList, "age<9".toList, "age>5".toList] := rfl
  have harguments' : arguments {} reorderedQuery =
      ["age<9".toList, "age>3".toList, "age>5".toList] := rfl
  rw [harguments, harguments']
  exact .swap_front not_conflicts_bounds _

theorem compile_reordering_bounds :
    compile {} orderedQuery = .ok orderedResult ∧
      compile {} reorderedQuery = .ok reorderedResult ∧
      SameFilter orderedResult.filter reorderedResult.filter := by
  have h : compile {} orderedQuery = .ok orderedResult := rfl
  have h' : compile {} reorderedQuery = .ok reorderedResult := rfl
  obtain ⟨-, -, -, -, -, hfilter⟩ :=
    (@compile_reordering {} _ _ reordering_bounds).2 _ _ h h'
  exact ⟨h, h', hfilter⟩

end DocQuery
