import DocQuery.Proofs.Compile.Meaning
import DocQuery.Proofs.Filter.Form
import DocQuery.Proofs.Literal.Word

/-!
# The form of compiled filters

* `wellFormed_of_compile`: a compiled filter is well-formed, where the lists in it are those that
  values are cast to.
* **`compile_wellFormed`**: the form of a compiled filter where casters make no documents, and
  where there are no casters.
-/

namespace DocQuery

theorem wellFormed_of_compile {settings : Settings} {IsList : List Value → Prop}
    (hdocument : ∀ raw d, settings.casters.cast raw ≠ .ok (.document d))
    (hlist : ∀ raw items, settings.casters.cast raw = .ok (.array items) → IsList items)
    {query : Text} {q : Query} (h : compile settings query = .ok q) :
    Filter.WellFormed IsList q.filter := by
  obtain ⟨tree, -, hmeans⟩ := means_of_compileArguments h
  obtain ⟨fragments, hfragments, hfilter⟩ := hmeans.filter
  rw [hfilter]
  refine Filter.wellFormed_foldl_merge fun fragment hmem => ?_
  obtain ⟨argument, -, hargument⟩ := exists_of_mem_fragments hfragments hmem
  rcases fragmentOf?_eq_ok hargument with ⟨phrase, hphrase⟩ | hparse
  · exact Fragment.isAsked_search hphrase
  · exact Fragment.isAsked_parse hdocument hlist hparse

/-- A list as words with commas between them write it. -/
def IsWordList (items : List Value) : Prop := 2 ≤ items.length ∧ ∀ v ∈ items, v.isWordValue = true

/-- **The form of a compiled filter.** If casters make no documents, each field of the filter is
there once and is asked to equal a single value or to satisfy operators, each of which is there once
and holds a value of its kind. No operator asks to be equal. Without casters the lists have two or
more items, which are numbers, truth values, no values or texts. -/
theorem compile_wellFormed {settings : Settings} {query : Text} {q : Query}
    (hcasters : ∀ d, ¬ settings.casters.Makes (.document d))
    (h : compile settings query = .ok q) :
    Filter.WellFormed (fun _ => True) q.filter ∧
      (∀ field ops, (field, .document ops) ∈ q.filter → "$eq".toList ∉ Dict.keys ops) ∧
      (settings.casters = [] → Filter.WellFormed IsWordList q.filter) := by
  have hdocument := CasterTable.cast_ne_document hcasters
  have hform : Filter.WellFormed (fun _ => True) q.filter :=
    wellFormed_of_compile hdocument (fun _ _ _ => trivial) h
  refine ⟨hform, fun field ops hmem hkey => ?_, fun hnil => ?_⟩
  · obtain ⟨v, hv⟩ := Dict.mem_keys.mp hkey
    obtain ⟨-, -, hops⟩ := (hform.isAsked field _ hmem).operands
    exact absurd (hops _ v hv).key_mem (by decide)
  · refine wellFormed_of_compile hdocument (fun raw items hraw => ?_) h
    rw [hnil] at hraw
    exact CasterTable.cast_nil_eq_array hraw

/-- A caster that makes a list with a document in it. -/
def pairCaster : CasterTable :=
  [("pair".toList, fun inner => .ok (.array [.string inner, .document [("$eq".toList, .null)]]))]

/-- A query that asks for a list of the caster, for operators and for a phrase. -/
def formedQuery : Text := "age>3&tag=pair(7)&age!=5&age<=9&$text=hi&!gone&name=al".toList

/-- What it is compiled to. -/
def formedResult : Query where
  filter := [
    ("age".toList, .document [("$gt".toList, .int64 3), ("$ne".toList, .int64 5),
      ("$lte".toList, .int64 9)]),
    ("tag".toList, .document [("$in".toList, .array [.int64 7, .document [("$eq".toList, .null)]])]),
    ("$text".toList, .document [("$search".toList, .string "hi".toList)]),
    ("gone".toList, .document [("$exists".toList, .bool false)]),
    ("name".toList, .string "al".toList)]

/-- A query with a list of words. -/
def wordsQuery : Text := "age=3,none,Al&age!=5".toList

/-- What it is compiled to. -/
def wordsResult : Query where
  filter := [("age".toList, .document [
    ("$in".toList, .array [.int64 3, .null, .string "Al".toList]), ("$ne".toList, .int64 5)])]

theorem compile_wellFormed_lists :
    (compile ⟨[], false, pairCaster⟩ formedQuery = .ok formedResult ∧
        Filter.WellFormed (fun _ => True) formedResult.filter) ∧
      compile {} wordsQuery = .ok wordsResult ∧ Filter.WellFormed IsWordList wordsResult.filter := by
  have hpair : ∀ d, ¬ pairCaster.Makes (.document d) := by
    rintro d ⟨name, caster, inner, hmem, hmade⟩
    cases List.mem_singleton.mp hmem
    cases hmade
  have hnone : ∀ d, ¬ CasterTable.Makes [] (.document d) := by
    rintro d ⟨name, caster, inner, hmem, -⟩
    exact absurd hmem List.not_mem_nil
  have h : compile ⟨[], false, pairCaster⟩ formedQuery = .ok formedResult := rfl
  have h' : compile {} wordsQuery = .ok wordsResult := rfl
  exact ⟨⟨h, (compile_wellFormed hpair h).1⟩, h', (@compile_wellFormed {} _ _ hnone h').2.2 rfl⟩

end DocQuery
