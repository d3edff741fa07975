import TableQuery.Proofs.Outcome
import TableQuery.Proofs.Workspace.Terminal

/-!
# The steps of a workspace

What an action leaves behind, by kinds of actions: some only look, those that refine give a name to
a new relation or fail, and those that load or fetch leave their relation and the store.
-/

namespace TableQuery

/-- The actions that only look at the workspace. -/
def Action.looks {ι : Type} : Action ι → Bool
  | .state _ | .compile _ | .toJson _ | .inspect _ => true
  | .scopes _ | .containsScope .. | .applyScope .. => true
  | .calls | .tableOf _ => true
  | _ => false

/-- The name that an action gives to a new relation, if it succeeds. -/
def Action.target? {ι : Type} : Action ι → Option String
  | .start _ target _ | .chain _ target _ => some target
  | _ => none

namespace Workspace

variable {ι α : Type} {models : ι → Model α} {workspace : Workspace models} {source name : String}
  {held : NamedRelation models} {perform : NamedRelation models → Workspace models × Reply α}

theorem withNamed_some (bound : workspace.relations[source]? = some held) :
    workspace.withNamed source perform = perform held := by
  rw [withNamed, bound]

theorem withNamed_none (unbound : workspace.relations[source]? = none) :
    workspace.withNamed source perform = (workspace, .unnamed source) := by
  rw [withNamed, unbound]

theorem withNamed_of_looks (looks : ∀ held, (perform held).1 = workspace) :
    (workspace.withNamed source perform).1 = workspace := by
  unfold withNamed
  split
  · exact looks _
  · rfl

theorem run_cons [DecidableEq ι] (action : Action ι) (rest : List (Action ι)) :
    (workspace.run (action :: rest)).1 = ((workspace.step action).1.run rest).1 := rfl

theorem step_of_looks [DecidableEq ι] {action : Action ι} (looks : action.looks = true) :
    (workspace.step action).1 = workspace := by
  cases action with
  | state source | inspect source => exact withNamed_of_looks fun held => rfl
  | compile source | toJson source | applyScope source =>
    refine withNamed_of_looks fun held => ?_
    split <;> rfl
  | scopes | containsScope | calls | tableOf => rfl
  | _ => cases looks

/-- A definition of a scope changes nothing but the scopes. -/
theorem step_defineScope [DecidableEq ι] (model : ι) (name : String) (body : ScopeBody) :
    (workspace.step (.defineScope model name body)).1.relations = workspace.relations ∧
      (workspace.step (.defineScope model name body)).1.store = workspace.store := by
  rw [step]
  split <;> exact ⟨rfl, rfl⟩

/-! ## Names -/

theorem relations_name (target : String) (model : ι) (relation : Relation (models model))
    (name : String) : (workspace.name target model relation).relations[name]? =
      if target = name then some ⟨model, relation⟩ else workspace.relations[name]? := by
  refine Std.TreeMap.getElem?_insert.trans ?_
  simp only [Std.compare_eq_iff_eq]

theorem refine_cases (target : String) (model : ι) (relation : Relation (models model))
    (steps : List QueryStep) :
    (∃ e, workspace.refine target model relation steps = (workspace, .failure e)) ∨
      ∃ query, workspace.refine target model relation steps =
        (workspace.name target model (.ofQuery query), .state query false) := by
  unfold refine
  rcases chained : relation.chain (workspace.scopes model) steps with e | next
  · exact .inl ⟨e, rfl⟩
  · rcases map_eq_ok.1 chained with ⟨query, _, rfl⟩
    exact .inr ⟨query, rfl⟩

/-- An action that gives a name either does nothing or names a relation that has loaded nothing. -/
theorem step_of_target [DecidableEq ι] {action : Action ι} (target : action.target? = some name) :
    ((workspace.step action).1 = workspace ∧
        ∀ query loaded, (workspace.step action).2 ≠ .state query loaded) ∨
      ∃ model query, workspace.step action =
        (workspace.name name model (.ofQuery query), .state query false) := by
  have refined {model : ι} {relation : Relation (models model)} {steps : List QueryStep}
      (stepped : workspace.step action = workspace.refine name model relation steps) :
      ((workspace.step action).1 = workspace ∧
          ∀ query loaded, (workspace.step action).2 ≠ .state query loaded) ∨
        ∃ model query, workspace.step action =
          (workspace.name name model (.ofQuery query), .state query false) := by
    rw [stepped]
    rcases workspace.refine_cases name model relation steps with ⟨e, failed⟩ | ⟨query, named⟩
    · rw [failed]
      exact .inl ⟨rfl, nofun⟩
    · exact .inr ⟨model, query, named⟩
  cases action with
  | start model other refinement =>
    cases target
    exact refined rfl
  | chain source other steps =>
    cases target
    cases found : workspace.relations[source]? with
    | some held => exact refined (withNamed_some found)
    | none =>
      have stepped : workspace.step (.chain source name steps) = (workspace, .unnamed source) :=
        withNamed_none found
      rw [stepped]
      exact .inl ⟨rfl, nofun⟩
  | _ => cases target

/-! ## Relations and stores left behind -/

/-- The workspace after an operation on a named relation that leaves this relation and store. -/
def leaving (workspace : Workspace models) (source : String) (held : NamedRelation models)
    (after : Relation (models held.model) × CannedStore) : Workspace models :=
  { workspace.name source held.model after.1 with store := after.2 }

theorem relations_leaving (after : Relation (models held.model) × CannedStore) (name : String) :
    (workspace.leaving source held after).relations[name]? =
      if source = name then some ⟨held.model, after.1⟩ else workspace.relations[name]? :=
  relations_name source held.model after.1 name

/-- The relations after an operation on a named relation, if there is one. -/
theorem relations_withNamed
    {after : (held : NamedRelation models) → Relation (models held.model) × CannedStore}
    (leaves : ∀ held, (perform held).1 = workspace.leaving source held (after held))
    (name : String) : (workspace.withNamed source perform).1.relations[name]? =
      if source = name then
        workspace.relations[name]?.map fun held => ⟨held.model, (after held).1⟩
      else workspace.relations[name]? := by
  cases found : workspace.relations[source]? with
  | some held =>
    rw [withNamed_some found, leaves, relations_leaving]
    split
    case isTrue same => rw [← same, found, Option.map_some]
    case isFalse => rfl
  | none =>
    rw [withNamed_none found]
    split
    case isTrue same => rw [← same, found, Option.map_none]
    case isFalse => rfl

theorem performNamed_eq (operation : Terminal) :
    (workspace.performNamed source held operation).1 =
      workspace.leaving source held (operation.perform held.relation workspace.store).2 := rfl

theorem loadConcurrently_eq (calls : Nat) :
    (workspace.loadConcurrently source held calls).1 =
      workspace.leaving source held (held.relation.loadTimes calls workspace.store).2 := by
  rw [← Relation.loadConcurrently_canned]
  rfl

theorem loadTwice_eq : (workspace.loadTwice source held).1 =
    workspace.leaving source held (held.relation.loadTimes 2 workspace.store).2 := by
  rcases first : held.relation.load workspace.store with ⟨answer, relation, store⟩
  rcases second : relation.load store with ⟨again, final, after⟩
  simp only [loadTwice, Relation.loadTimes, first, second]
  cases answer <;> cases again <;> rfl

/-! ## Scopes -/

theorem withNamed_scopes (keeps : ∀ held, (perform held).1.scopes = workspace.scopes) :
    (workspace.withNamed source perform).1.scopes = workspace.scopes := by
  unfold withNamed
  split
  · exact keeps _
  · rfl

/-- Only definitions change scopes. -/
theorem step_scopes [DecidableEq ι] {action : Action ι}
    (undefining : ∀ model name body, action ≠ .defineScope model name body) :
    (workspace.step action).1.scopes = workspace.scopes := by
  have refined (target : String) (model : ι) (relation : Relation (models model))
      (steps : List QueryStep) :
      (workspace.refine target model relation steps).1.scopes = workspace.scopes := by
    rcases workspace.refine_cases target model relation steps with ⟨e, failed⟩ | ⟨query, named⟩
    · rw [failed]
    · rw [named]; rfl
  cases action with
  | defineScope model name body => exact absurd rfl (undefining model name body)
  | start model target refinement => exact refined target model .all refinement.toList
  | chain source target steps =>
    exact withNamed_scopes fun held => refined target held.model held.relation steps
  | terminal subject operation =>
    cases subject with
    | named source => exact withNamed_scopes fun held => rfl
    | model model => rfl
  | loadConcurrently => exact withNamed_scopes fun held => rfl
  | loadTwice =>
    refine withNamed_scopes fun held => ?_
    rw [loadTwice_eq]
    rfl
  | setRecords | failWith | recover | fetch => rfl
  | _ => rw [step_of_looks rfl]

end Workspace

end TableQuery
