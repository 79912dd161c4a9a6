import DocQuery.Proofs.Compile.Run

/-!
# When compiling fails

* `startPopulation_eq_error`: the population fails if relations are expanded and the last list of
  relations cannot be read.
* **`compile_failure`**: compiling fails with the error of the population or else with that of the
  first argument that has one, which is told by the argument, the casters and the names of the
  relations at the top.
-/

namespace DocQuery

/-- Whether an argument has a part in compiling: it is not left out, and it is no list of relations
where relations are not expanded. -/
def Settings.heeds (settings : Settings) (argument : Text) : Bool :=
  !settings.omits argument &&
    (settings.populate || decide (Reserved.name? argument ≠ some .populate))

theorem startPopulation_eq_error {settings : Settings} {arguments : List Text} {e : QueryError} :
    startPopulation settings arguments = .error e ↔
      settings.populate = true ∧ ∃ value,
        (arguments.filterMap relationList?).getLast? = some value ∧
          Population.parse value = .error e := by
  unfold startPopulation requestedPopulation
  cases settings.populate with
  | false => simp
  | true => cases (arguments.filterMap relationList?).getLast? <;> simp

theorem compileArguments_filter_populate {settings : Settings} (h : settings.populate = false)
    (arguments : List Text) :
    compileArguments settings (arguments.filter fun a => Reserved.name? a ≠ some .populate) =
      compileArguments settings arguments := by
  simp only [compileArguments, startQuery, h, Bool.false_eq_true, if_false]
  simp only [foldlM_filter_populate]

theorem compile_eq_heeded (settings : Settings) (query : Text) :
    compile settings query =
      compileArguments settings ((allArguments query).filter settings.heeds) := by
  have hfilter : (allArguments query).filter settings.heeds =
      (arguments settings query).filter fun a =>
        settings.populate || decide (Reserved.name? a ≠ some .populate) := by
    rw [arguments, List.filter_filter]
    congr 1
    funext a
    rw [Settings.heeds, Bool.and_comm]
  rw [hfilter, compile]
  cases h : settings.populate with
  | false =>
    simp only [Bool.false_or]
    rw [compileArguments_filter_populate h]
  | true =>
    simp only [Bool.true_or]
    rw [List.filter_eq_self.mpr fun _ _ => rfl]

/-- **When compiling fails, and with which error.** It fails if relations are expanded and the last
list of relations cannot be read, with the error of that list, and else if an argument has an error
by itself, with the error of the first such argument. What error an argument has is told by the
argument, the casters and the names of the relations at the top, whatever query it meets. Arguments
that are left out, and lists of relations where relations are not expanded, have no part in it. -/
theorem compile_failure (settings : Settings) (query : Text) :
    (∀ e, compile settings query = .error e ↔
      (settings.populate = true ∧ ∃ value,
        ((arguments settings query).filterMap relationList?).getLast? = some value ∧
          Population.parse value = .error e) ∨
      ∃ tree before argument after, startPopulation settings (arguments settings query) = .ok tree ∧
        arguments settings query = before ++ argument :: after ∧
        (∀ a ∈ before, argumentError? settings.casters tree.names a = none) ∧
        argumentError? settings.casters tree.names argument = some e) ∧
    (∀ (q : Query) (argument : Text) (e : QueryError),
      Query.apply settings.casters q argument = .error e ↔
        argumentError? settings.casters (q.population.getD []).names argument = some e) ∧
    compile settings query =
      compileArguments settings ((allArguments query).filter settings.heeds) := by
  refine ⟨fun e => ?_, fun q argument e => apply_eq_error, compile_eq_heeded settings query⟩
  rw [compile, compileArguments_eq_error, startPopulation_eq_error]
  refine or_congr Iff.rfl ?_
  -- the first argument with an error is the one that `findSome?` finds
  constructor
  · rintro ⟨tree, htree, hfirst⟩
    obtain ⟨before, argument, after, heq, herror, hbefore⟩ := List.findSome?_eq_some_iff.mp hfirst
    exact ⟨tree, before, argument, after, htree, heq, hbefore, herror⟩
  · rintro ⟨tree, before, argument, after, htree, heq, hbefore, herror⟩
    exact ⟨tree, htree, List.findSome?_eq_some_iff.mpr
      ⟨before, argument, after, heq, herror, hbefore⟩⟩

end DocQuery
