import TableQuery.Proofs.Workspace.Step

/-!
# Queries under names

Of a named relation only the model and the query outlive the actions that load it: that is what
`Workspace.known` tells of a name. An action gives at most one name away, to the query that
`binding?` says, and leaves the queries under all other names as they are: `step_known`.
-/

namespace TableQuery

namespace Workspace

variable {ι α : Type} {models : ι → Model α} {workspace : Workspace models} {source name : String}
  {model : ι} {action : Action ι}

/-- The model and the query of the relation with the name. -/
def known (workspace : Workspace models) (name : String) : Option (ι × Query) :=
  workspace.relations[name]?.map fun held => (held.model, held.relation.query)

theorem known_of_bound {held : NamedRelation models}
    (bound : workspace.relations[source]? = some held) :
    workspace.known source = some (held.model, held.relation.query) := by
  rw [known, bound, Option.map_some]

theorem known_of_unbound (unbound : workspace.relations[source]? = none) :
    workspace.known source = none := by
  rw [known, unbound, Option.map_none]

theorem bound_of_known {query : Query} (known : workspace.known source = some (model, query)) :
    ∃ relation : Relation (models model),
      workspace.relations[source]? = some ⟨model, relation⟩ ∧ relation.query = query := by
  obtain ⟨⟨_, relation⟩, bound, same⟩ := Option.map_eq_some_iff.1 known
  cases same
  exact ⟨relation, bound, rfl⟩

theorem known_name (target : String) (model : ι) (relation : Relation (models model))
    (name : String) : (workspace.name target model relation).known name =
      if target = name then some (model, relation.query) else workspace.known name := by
  rw [known, relations_name]
  split <;> rfl

/-- An operation that leaves the query of its relation as it is leaves all queries so. -/
theorem known_of_leaving {perform : NamedRelation models → Workspace models × Reply α}
    {after : (held : NamedRelation models) → Relation (models held.model) × CannedStore}
    (leaves : ∀ held, (perform held).1 = workspace.leaving source held (after held))
    (keeps : ∀ held, (after held).1.query = held.relation.query) (name : String) :
    (workspace.withNamed source perform).1.known name = workspace.known name := by
  rw [known, relations_withNamed leaves]
  split
  case isTrue => simp only [known, Option.map_map, Function.comp_def, keeps]
  case isFalse => rfl

theorem refine_known (target : String) (model : ι) (relation : Relation (models model))
    (steps : List QueryStep) (name : String) :
    (workspace.refine target model relation steps).1.known name =
      match QueryStep.performAll (workspace.scopes model).apply [] steps relation.query with
      | .ok query => if target = name then some (model, query) else workspace.known name
      | .error _ => workspace.known name := by
  unfold refine Relation.chain
  cases QueryStep.performAll (workspace.scopes model).apply [] steps relation.query with
  | ok query => exact known_name target model (.ofQuery query) name
  | error e => rfl

/-- The name that an action gives away, with the model and the query that it then stands for. -/
def binding? (workspace : Workspace models) : Action ι → Option (String × ι × Query)
  | .start model target refinement =>
    (QueryStep.performAll (workspace.scopes model).apply [] refinement.toList .all).toOption.map
      fun query => (target, model, query)
  | .chain source target steps => (workspace.known source).bind fun (model, query) =>
    (QueryStep.performAll (workspace.scopes model).apply [] steps query).toOption.map
      fun query => (target, model, query)
  | _ => none

/-- The queries under all names but the one that is given away stay. -/
theorem step_known [DecidableEq ι] (workspace : Workspace models) (action : Action ι)
    (name : String) : (workspace.step action).1.known name =
      match workspace.binding? action with
      | some (target, bound) => if target = name then some bound else workspace.known name
      | none => workspace.known name := by
  cases action with
  | start model target refinement =>
    have every : (Relation.all : Relation (models model)).query = .all := rfl
    rw [step, refine_known, binding?, every]
    cases QueryStep.performAll (workspace.scopes model).apply [] refinement.toList .all <;> rfl
  | chain source target steps =>
    cases found : workspace.relations[source]? with
    | none =>
      rw [step, withNamed_none found, binding?, known_of_unbound found]
      rfl
    | some held =>
      rw [step, withNamed_some found, refine_known, binding?, known_of_bound found]
      simp only [Option.bind_some]
      cases QueryStep.performAll (workspace.scopes held.model).apply [] steps
        held.relation.query <;> rfl
  | terminal subject operation =>
    cases subject with
    | named source =>
      exact known_of_leaving (fun _ => performNamed_eq operation)
        (fun held => by rw [operation.perform_relation]; rfl) name
    | model model => rfl
  | loadConcurrently source calls =>
    exact known_of_leaving (fun _ => loadConcurrently_eq calls)
      (fun held => by rw [held.relation.loadTimes_canned]; rfl) name
  | loadTwice source =>
    exact known_of_leaving (fun _ => loadTwice_eq)
      (fun held => by rw [held.relation.loadTimes_canned]; rfl) name
  | defineScope model other body =>
    rw [known, (step_defineScope model other body).1]
    rfl
  | setRecords | failWith | recover | fetch => rfl
  | _ => rw [step_of_looks rfl]; rfl

end Workspace

end TableQuery
