import TableQuery.Proofs.Condition.Trivial
import TableQuery.Proofs.Scope.Inlining

/-!
# What scopes run

An application of a scope runs the steps of its body. While they run the scope itself is out of
reach, `apply_of_found`; where no scope in it leads back to it that makes no difference, and the
steps run with all the scopes of the registry, `apply_of_onward`.
-/

namespace TableQuery

namespace QueryStep

variable {scope other : String → List Value → Query → Except Error Query} {args : List Value}

theorem perform_congr {step : QueryStep} (query : Query)
    (agree : ∀ name ∈ step.scope?, ∀ args query, scope name args query = other name args query) :
    step.perform scope args query = step.perform other args query := by
  cases step with
  | scope name => exact agree name rfl [] query
  | scopeWith name passed => exact agree name rfl passed query
  | passArgs name => exact agree name rfl args query
  | _ => rfl

/-- Steps come to the same with scopes that agree on those that the steps use. -/
theorem performAll_congr {steps : List QueryStep} (query : Query)
    (agree : ∀ name ∈ steps.filterMap scope?, ∀ args query,
      scope name args query = other name args query) :
    performAll scope args steps query = performAll other args steps query := by
  induction steps generalizing query with
  | nil => rfl
  | cons step rest ih =>
    have first : step.perform scope args query = step.perform other args query :=
      perform_congr query fun name used =>
        agree name (List.mem_filterMap.2 ⟨step, List.mem_cons_self, used⟩)
    rw [performAll, List.foldlM_cons, performAll, List.foldlM_cons, first]
    refine bind_congr fun between => ih between fun name used => ?_
    obtain ⟨later, member, same⟩ := List.mem_filterMap.1 used
    exact agree name (List.mem_filterMap.2 ⟨later, List.mem_cons_of_mem _ member, same⟩)

end QueryStep

namespace ScopeRegistry

variable {registry part whole : ScopeRegistry} {name caller callee : String} {body : ScopeBody}

theorem Uses.of_without (uses : (registry.without name).Uses caller callee) :
    registry.Uses caller callee := by
  obtain ⟨body, found, used⟩ := uses
  rw [getElem?_without] at found
  split at found
  · cases found
  · exact ⟨body, found, used⟩

/-- A registry goes on covering another one if both lose the scope that runs. -/
theorem Covers.without_without (covers : part.Covers whole caller)
    (uses : whole.Uses caller callee) :
    (part.without caller).Covers (whole.without caller) callee := by
  refine ⟨covers.1, fun other reached => ?_⟩
  have also : Relation.ReflTransGen whole.Uses callee other :=
    Relation.ReflTransGen.mono (fun _ _ => Uses.of_without) callee other reached
  rw [getElem?_without, getElem?_without, covers.2 other (.head uses also)]

theorem applyWithin_of_covers {depth : Nat} (covers : part.Covers whole name) (args : List Value)
    (query : Query) :
    applyWithin depth part name args query = applyWithin depth whole name args query := by
  have same : part.bodies[name]? = whole.bodies[name]? := covers.2 name .refl
  -- Both registries lose the scope that runs, so it does not matter whether any leads back to it.
  induction depth generalizing part whole name args query with
  | zero => rw [applyWithin, applyWithin, covers.1]
  | succ depth ih =>
    rw [applyWithin, applyWithin, same, covers.1]
    cases found : whole.bodies[name]? with
    | none => rfl
    | some body =>
      refine QueryStep.performAll_congr query fun callee used args query => ?_
      have covered := covers.without_without ⟨body, found, used⟩
      exact ih covered args query (covered.2 callee .refl)

theorem size_of_found (found : registry.bodies[name]? = some body) :
    registry.size = (registry.without name).size + 1 := by
  have positive : registry.size ≠ 0 := by
    intro empty
    rw [getElem?_of_size_eq_zero empty] at found
    cases found
  rw [size_without found]
  omega

/-- A scope runs the steps of its body, but they do not find the scope itself. -/
theorem apply_of_found (found : registry.bodies[name]? = some body) (args : List Value)
    (query : Query) : registry.apply name args query =
      QueryStep.performAll (registry.without name).apply (body.passed args) body.toSteps query := by
  rw [apply, size_of_found found, applyWithin, found]
  rfl

/-- A scope that nothing in it leads back to runs the steps of its body with all scopes. -/
theorem apply_of_onward (found : registry.bodies[name]? = some body)
    (onward : ¬Relation.TransGen registry.Uses name name) (args : List Value) (query : Query) :
    registry.apply name args query =
      QueryStep.performAll registry.apply (body.passed args) body.toSteps query := by
  rw [apply_of_found found]
  refine QueryStep.performAll_congr query fun callee used args query => ?_
  -- Nothing that is used leads back here, so the body cannot tell that the scope is out of reach.
  have whole : registry.Covers registry name := ⟨rfl, fun _ _ => rfl⟩
  have covered : (registry.without name).Covers registry callee :=
    whole.without onward ⟨body, found, used⟩
  rw [apply, apply, size_of_found found, ← applyWithin_succ_of_size_le (Nat.le_refl _)]
  exact applyWithin_of_covers covered args query

/-- A formula that is not blank is added to any query as it is. -/
theorem apply_formula {text : String} (found : registry.bodies[name]? = some (.formula text))
    (nonblank : Text.isBlank text = false) (args : List Value) (query : Query) :
    registry.apply name args query =
      .ok { query with conditions := query.conditions ++ [.raw text] } := by
  have contributes : (Filter.raw text).condition? = some (.raw text) := by
    rw [Filter.condition?_raw, nonblank]
    rfl
  rw [apply_of_found found, ← Query.addFilter_of_some contributes]
  rfl

end ScopeRegistry

end TableQuery
