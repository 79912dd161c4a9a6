import DocQuery.Filter.Merge
import DocQuery.Proofs.Filter.Grammar
import DocQuery.Proofs.Literal.Written

/-!
# Writing conditions

* `FieldName`, `Demand`, `Clause`: what can be asked of a field, and the field it is asked of.
* `Clause.written`, `Clause.entry`: the argument that a clause is written as and the entry of the
  filter that it asks for.
* **`Clause.parse_written`**: the argument is read as a fragment that makes the entry.
* `Clause.ofArgument?_written`, `Clause.written_ne_nil`: it is no reserved argument, and not empty.
-/

namespace DocQuery

/-! ## Clauses -/

/-- Whether a character can stand in the name of a field. -/
def isFieldChar (c : Char) : Bool := c.isAlphanum || c = '_' || c = '.'

/-- The names of fields that would be taken for reserved arguments. -/
def reservedFields : List Text :=
  ["sort".toList, "limit".toList, "skip".toList, "fields".toList, "populate".toList]

/-- The name of a field that a clause can be about. -/
structure FieldName where
  text : Text
  ne_nil : text ≠ []
  isPlain : text.all isFieldChar = true
  not_reserved : text ∉ reservedFields

/-- What is asked of a field: to be there or not, a comparison with a single value, or to be among
the values of a list or not. -/
inductive Demand where
  | presence (b : Bool)
  | comparison (c : Comparison) (h : c ≠ .absent) (scalar : Scalar)
  | membership (b : Bool) (list : WordList)

/-- What a demand is in a filter. To equal a single value is written there without an operator. -/
def Demand.value : Demand → Value
  | presence b => .document [(existsKeyword, .bool b)]
  | comparison .equals _ scalar => scalar.value
  | comparison c _ scalar => .document [(c.keyword, scalar.value)]
  | membership true list => .document [(inKeyword, list.value)]
  | membership false list => .document [(notInKeyword, list.value)]

/-- What is asked of one field. -/
structure Clause where
  field : FieldName
  demand : Demand

namespace Clause

/-- The argument that asks for a clause. -/
def written (clause : Clause) : Text :=
  match clause.demand with
  | .presence true => clause.field.text
  | .presence false => Comparison.absent.token ++ clause.field.text
  | .comparison c _ scalar => clause.field.text ++ c.token ++ scalar.written
  | .membership true list => clause.field.text ++ Comparison.equals.token ++ list.written
  | .membership false list => clause.field.text ++ Comparison.differs.token ++ list.written

/-- The entry of a clause in a filter. -/
def entry (clause : Clause) : Text × Value := (clause.field.text, clause.demand.value)

end Clause

/-! ## Names of fields -/

namespace FieldName

theorem isFieldChar_of_mem (field : FieldName) {c : Char} (hc : c ∈ field.text) :
    isFieldChar c = true := List.all_eq_true.mp field.isPlain c hc

theorem hasNoSign (field : FieldName) : HasNoSign field.text := by
  intro c hc hsign
  have hnone : signs.filter isFieldChar = [] := by decide
  exact List.filter_eq_nil_iff.mp hnone c hsign (field.isFieldChar_of_mem hc)

/-- The word of a reserved name is no field name. -/
theorem text_ne_leading (field : FieldName) (name : Reserved) :
    field.text ≠ leading name.opening := by
  intro heq
  cases name with
  | text =>
    have hdollar : '$' ∈ field.text := heq ▸ by decide
    exact absurd (field.isFieldChar_of_mem hdollar) (by decide)
  | _ => exact field.not_reserved (heq ▸ by decide)

end FieldName

/-! ## Reading clauses -/

/-- An argument with the signs of one comparison asks for this comparison. -/
theorem Fragment.parse_append {before after : Text} (hbefore : HasNoSign before)
    (hafter : HasNoSign after) {comparison : Comparison} (hcomparison : comparison ≠ .absent)
    {casters : CasterTable} {v : Value} (hv : casters.cast after = .ok v) {condition : Condition}
    (hcondition : compare before comparison v = .ok condition) :
    parse casters (before ++ comparison.token ++ after) = .ok ⟨before, condition⟩ := by
  have hresolve := Comparison.resolve?_of_hasNoComparison hbefore.hasNoComparison
    hafter.hasNoComparison comparison
  have hcut := Comparison.cut?_sides hbefore.hasNoComparison comparison after
  have hhas := Comparison.has_token_eq_false_iff.mpr
    (Comparison.not_infix_of_hasNoComparison hafter.hasNoComparison comparison)
  rw [parse_of_not_has hresolve hcut hhas hcomparison, hv]
  change compare before comparison v >>= _ = _
  rw [hcondition]
  rfl

namespace Clause

/-- **A clause is read back** from its written form, as a fragment that makes its entry. -/
theorem parse_written (clause : Clause) :
    ∃ condition, Fragment.parse [] clause.written = .ok ⟨clause.field.text, condition⟩ ∧
      condition.after none = clause.demand.value := by
  obtain ⟨field, demand⟩ := clause
  have hfield := field.hasNoSign
  cases demand with
  | presence b =>
    refine ⟨.operator existsKeyword (.bool b), ?_, rfl⟩
    cases b with
    | true => exact Fragment.parse_of_hasNoComparison hfield.hasNoComparison []
    | false => exact Fragment.parse_eq_absent_iff.mpr ⟨[], rfl, nofun, hfield.hasNoComparison⟩
  | comparison c hc scalar =>
    refine ⟨_, Fragment.parse_append hfield scalar.hasNoSign_written hc scalar.cast_written
      (Fragment.compare_of_ne_array scalar.value_ne_array field.text c), ?_⟩
    cases c <;> rfl
  | membership b list =>
    cases b with
    | true =>
      exact ⟨.operator inKeyword list.value, Fragment.parse_append hfield list.hasNoSign_written
        (by decide) (list.cast_written []) rfl, rfl⟩
    | false =>
      exact ⟨.operator notInKeyword list.value, Fragment.parse_append hfield
        list.hasNoSign_written (by decide) (list.cast_written []) rfl, rfl⟩

/-- What stands in front of the first sign is the field or nothing. -/
theorem leading_written (clause : Clause) :
    leading clause.written = clause.field.text ∨ leading clause.written = [] := by
  obtain ⟨field, demand⟩ := clause
  have hleading : ∀ (c : Comparison) (after : Text),
      leading (field.text ++ c.token ++ after) = field.text := by
    intro c after
    rw [List.append_assoc, field.hasNoSign.leading_append]
    cases c <;> exact List.append_nil _
  cases demand with
  | presence b =>
    cases b with
    | true =>
      have hall := field.hasNoSign.leading_append []
      rw [List.append_nil] at hall
      exact .inl (hall.trans (List.append_nil _))
    | false => exact .inr rfl
  | comparison c _ scalar => exact .inl (hleading c scalar.written)
  | membership b list => cases b <;> exact .inl (hleading _ list.written)

theorem ofArgument?_written (clause : Clause) : Reserved.ofArgument? clause.written = none := by
  refine Reserved.ofArgument?_eq_none fun name heq => ?_
  rcases clause.leading_written with hfield | hnil
  · exact clause.field.text_ne_leading name (hfield.symm.trans heq)
  · rw [hnil] at heq
    cases name <;> cases heq

theorem written_ne_nil (clause : Clause) : clause.written ≠ [] := by
  obtain ⟨field, demand⟩ := clause
  unfold written
  split <;> simp [field.ne_nil, Comparison.token]

theorem separator_not_mem_written (clause : Clause) : '&' ∉ clause.written := by
  obtain ⟨field, demand⟩ := clause
  have hsign : ∀ {text}, HasNoSign text → '&' ∉ text := fun h hmem => h '&' hmem (by decide)
  have htoken : ∀ c : Comparison, '&' ∉ c.token := fun c => by cases c <;> decide
  unfold written
  split <;> simp [hsign field.hasNoSign, hsign (Scalar.hasNoSign_written _),
    hsign (WordList.hasNoSign_written _), htoken]

end Clause

end DocQuery
