import DocQuery.Proofs.Relation.Shape
import DocQuery.Proofs.Value.Steady
import DocQuery.Query.Document

/-!
# Exchanging relations

An exchange of a population goes through the documents of its relations. Their names and their
places come out as they are; each projection comes out by itself.

* `Population.projections`: the projections of the relations, at any depth.
* `Population.through`: the documents of relations in which a projection stands as some value.
* **`through_eq_iff`**: these documents are told by the projections.
* `exchanged`, **`relationValues_eq_through`**: what is exchanged.
* `Population.Steady`, `steady_route?`: routing keeps the values of projections steady.
-/

namespace DocQuery

mutual

/-- The projections of a relation and of those below it. -/
def Relation.projections : Relation → List Document
  | .mk _ projection children => projection.toList ++ Population.projections children

/-- The projections of relations and of those below them. -/
def Population.projections : Population → List Document
  | [] => []
  | r :: rest => r.projections ++ Population.projections rest

end

/-- A document that may be missing, which stands as some value. -/
def optionalThrough (asValue : Document → Value) : Option Document → Value
  | none => .null
  | some d => asValue d

mutual

/-- The document of a relation, in which a projection stands as some value. -/
def Relation.through (asValue : Document → Value) : Relation → Value
  | .mk path projection children =>
    .document ([("path".toList, .string path),
        ("projection".toList, optionalThrough asValue projection)] ++
      if children.isEmpty then []
      else [("population".toList, .array (Population.through asValue children))])

/-- The documents of relations, in which a projection stands as some value. -/
def Population.through (asValue : Document → Value) : Population → List Value
  | [] => []
  | r :: rest => r.through asValue :: Population.through asValue rest

end

/-! ## What the documents tell -/

theorem optionalThrough_eq_iff {f g : Document → Value} {projection : Option Document} :
    optionalThrough f projection = optionalThrough g projection ↔
      ∀ p ∈ projection.toList, f p = g p := by
  cases projection <;> simp [optionalThrough]

theorem optionalThrough_eq_null_iff {asValue : Document → Value} (h : ∀ d, asValue d ≠ .null)
    (projection : Option Document) :
    optionalThrough asValue projection = .null ↔ projection = none := by
  cases projection with
  | none => exact iff_of_true rfl rfl
  | some d => exact iff_of_false (h d) nofun

mutual

theorem Relation.through_eq_iff {f g : Document → Value} {r : Relation} :
    r.through f = r.through g ↔ ∀ p ∈ r.projections, f p = g p := by
  cases r with
  | mk path projection children =>
    have hbelow : children.isEmpty = true ∨
        Population.through f children = Population.through g children ↔
          ∀ p ∈ Population.projections children, f p = g p := by
      rw [Population.through_eq_iff]
      refine or_iff_right_of_imp fun hempty => ?_
      rw [List.isEmpty_iff.mp hempty]
      exact fun _ hp => absurd hp List.not_mem_nil
    rw [Relation.projections, List.forall_mem_append, ← hbelow, ← optionalThrough_eq_iff]
    cases hempty : children.isEmpty <;> simp [Relation.through, hempty]

/-- **What the documents of relations tell** are the values of the projections. -/
theorem Population.through_eq_iff {f g : Document → Value} {relations : Population} :
    Population.through f relations = Population.through g relations ↔
      ∀ p ∈ Population.projections relations, f p = g p := by
  cases relations with
  | nil => simp [Population.through, Population.projections]
  | cons r relations =>
    rw [Population.through, Population.through, Population.projections, List.forall_mem_append,
      List.cons.injEq, Relation.through_eq_iff, Population.through_eq_iff]

end

/-! ## What is exchanged -/

/-- What a document comes out as. -/
def exchanged (d : Document) : Value := (Value.document d).reduced

theorem optionalDocument_eq_through (projection : Option Document) :
    optionalDocument projection = optionalThrough exchanged projection := by
  cases projection <;> rfl

/-- The document of a relation is not the form of another value. -/
theorem special?_toDocument (r : Relation) : special? r.toDocument = none := by
  cases r with
  | mk path projection children =>
    have hpath : "path".toList ∈ Dict.keys (Relation.mk path projection children).toDocument :=
      List.mem_cons_self
    exact special?_eq_none hpath (by decide)

mutual

theorem Relation.reduce_toDocument (r : Relation) : reduce r.toDocument = r.through exchanged := by
  rw [reduce_eq_document_iff.mpr ⟨rfl, special?_toDocument r⟩]
  cases r with
  | mk path projection children =>
    rw [Relation.toDocument, Relation.through, optionalDocument_eq_through,
      relationValues_eq_through]

/-- **What is exchanged of relations** are their documents with the projections exchanged. -/
theorem relationValues_eq_through (relations : Population) :
    relationValues relations = Population.through exchanged relations := by
  cases relations with
  | nil => rfl
  | cons r relations =>
    rw [relationValues, Population.through, Relation.reduce_toDocument, relationValues_eq_through]

end

/-- The values of all projections are steady. -/
def Population.Steady (relations : Population) : Prop :=
  ∀ p ∈ Population.projections relations, SteadyEntries p

/-! ## Routing -/

mutual

theorem Relation.projections_bare (r : Relation) : r.bare.projections = [] := by
  cases r with
  | mk path projection children =>
    rw [Relation.bare, Relation.projections, Population.projections_bare children]
    rfl

theorem Population.projections_bare (relations : Population) :
    Population.projections relations.bare = [] := by
  cases relations with
  | nil => rfl
  | cons r relations =>
    rw [Population.bare, Population.projections, Relation.projections_bare r,
      Population.projections_bare relations]
    rfl

end

namespace Population

theorem projections_append (relations others : Population) :
    projections (relations ++ others) = projections relations ++ projections others := by
  induction relations with
  | nil => rfl
  | cons r relations ih => rw [List.cons_append, projections, projections, ih, List.append_assoc]

theorem steady_of_bare {relations : Population} (h : relations.bare = relations) :
    relations.Steady := by
  rw [Steady, ← h, projections_bare]
  exact fun _ hp => absurd hp List.not_mem_nil

theorem steady_projectPath {v : Value} (hv : v.Steady) (names : List Text) {r : Relation}
    (h : ∀ p ∈ r.projections, SteadyEntries p) :
    ∀ p ∈ (projectPath v names r).projections, SteadyEntries p := by
  by_cases hnames : names = []
  · rwa [hnames, projectPath]
  · revert h
    refine projectPath_induction v (motive := fun _ r r' =>
      (∀ p ∈ r.projections, SteadyEntries p) → ∀ p ∈ r'.projections, SteadyEntries p)
      ?_ ?_ hnames r
    · rintro name rest ⟨path, projection, children⟩ - h
      rw [Relation.projections, List.forall_mem_append] at h
      have hbefore : SteadyEntries (projection.getD []) := by
        cases projection with
        | none => exact .nil
        | some p => exact h.1 p (by simp)
      refine List.forall_mem_append.mpr ⟨fun p hp => ?_, h.2⟩
      rw [List.mem_singleton.mp hp]
      exact hbefore.insert hv
    · intro name rest path projection before child after _ _ _ ih h
      simp only [Relation.projections, projections_append, projections,
        List.forall_mem_append] at h ⊢
      obtain ⟨hown, hbefore, hchild, hafter⟩ := h
      exact ⟨hown, hbefore, ih hchild, hafter⟩

/-- **Routing a field keeps the values of projections steady.** -/
theorem steady_route? {field : Text} {v : Value} (hv : v.Steady)
    {relations relations' : Population} (h : route? field v relations = some relations')
    (hrelations : relations.Steady) : relations'.Steady := by
  obtain ⟨name, names, before, r, after, -, -, rfl, -, -, rfl⟩ := exists_of_route? h
  simp only [Steady, projections_append, projections, List.forall_mem_append] at hrelations ⊢
  exact ⟨hrelations.1, steady_projectPath hv names hrelations.2.1, hrelations.2.2⟩

end Population

end DocQuery
