import TableQuery.Proofs.Workspace.Step

/-!
# The log along a run

All relations of a workspace fetch from one store. `Workspace.entries` tells for every action which
entries it leaves in the store's log: none for an action that only refines, compiles or shows, one
for a terminal operation that asks the store with parameters that compile, whatever the store
answers, and one for each such load if there are several. The log after a run is the log before it
with the entries of the actions in their order.
-/

namespace TableQuery

namespace Workspace

variable {ι α : Type} {models : ι → Model α} {workspace : Workspace models}

/-- What a named relation leaves in the log; a name without a relation leaves nothing. -/
def entriesNamed (workspace : Workspace models) (source : String)
    (entries : NamedRelation models → List FetchCall) : List FetchCall :=
  match workspace.relations[source]? with
  | some held => entries held
  | none => []

/-- The entries that an action leaves in the log. -/
def entries (workspace : Workspace models) : Action ι → List FetchCall
  | .terminal (.named source) operation => workspace.entriesNamed source fun held =>
    operation.entries held.relation
  | .terminal (.model model) operation => operation.entries (Relation.all : Relation (models model))
  | .loadConcurrently source calls => workspace.entriesNamed source fun held =>
    held.relation.loadLog calls workspace.store
  | .loadTwice source => workspace.entriesNamed source fun held =>
    held.relation.loadLog 2 workspace.store
  | .fetch table params => [⟨table, params⟩]
  | .start .. | .chain .. | .applyScope .. => []
  | .state _ | .compile _ | .toJson _ | .inspect _ => []
  | .defineScope .. | .scopes _ | .containsScope .. => []
  | .setRecords _ | .failWith .. | .recover | .calls | .tableOf _ => []

theorem withNamed_calls {source : String}
    {perform : NamedRelation models → Workspace models × Reply α}
    {entries : NamedRelation models → List FetchCall}
    (logs : ∀ held, (perform held).1.store.calls = workspace.store.calls ++ entries held) :
    (workspace.withNamed source perform).1.store.calls =
      workspace.store.calls ++ workspace.entriesNamed source entries := by
  unfold withNamed entriesNamed
  cases workspace.relations[source]? with
  | some held => exact logs held
  | none => exact (List.append_nil _).symm

variable [DecidableEq ι]

theorem store_of_target {action : Action ι} {name : String}
    (target : action.target? = some name) :
    (workspace.step action).1.store = workspace.store := by
  rcases step_of_target target with ⟨same, _⟩ | ⟨model, query, named⟩
  · rw [same]
  · rw [named]
    rfl

/-- An action adds its entries to the log, and nothing else. -/
theorem step_calls (workspace : Workspace models) (action : Action ι) :
    (workspace.step action).1.store.calls =
      workspace.store.calls ++ workspace.entries action := by
  have silent {next : Workspace models} (same : next.store = workspace.store) :
      next.store.calls = workspace.store.calls ++ [] := by
    rw [same, List.append_nil]
  cases action with
  | terminal subject operation =>
    cases subject with
    | named source =>
      refine withNamed_calls fun held => ?_
      exact congrArg CannedStore.calls (operation.perform_store held.relation workspace.store)
    | model model =>
      exact congrArg CannedStore.calls (operation.perform_store .all workspace.store)
  | loadConcurrently source calls =>
    refine withNamed_calls fun held => ?_
    rw [loadConcurrently_eq, held.relation.loadTimes_canned]
    rfl
  | loadTwice source =>
    refine withNamed_calls fun held => ?_
    rw [loadTwice_eq, held.relation.loadTimes_canned]
    rfl
  | fetch table params => rfl
  | start | chain => exact silent (store_of_target rfl)
  | defineScope model name body => exact silent (step_defineScope model name body).2
  | setRecords | failWith | recover => exact (List.append_nil _).symm
  | _ => exact silent (congrArg store (step_of_looks rfl))

/-- The entries of all actions of a run, each in the workspace that it finds. -/
def entriesAlong (workspace : Workspace models) : List (Action ι) → List FetchCall
  | [] => []
  | action :: rest => workspace.entries action ++ (workspace.step action).1.entriesAlong rest

/-- The log after a run is the log before it and the entries of the actions in their order. -/
theorem run_calls (workspace : Workspace models) (actions : List (Action ι)) :
    (workspace.run actions).1.store.calls =
      workspace.store.calls ++ workspace.entriesAlong actions := by
  induction actions generalizing workspace with
  | nil => exact (List.append_nil _).symm
  | cons action rest ih =>
    have later : (workspace.run (action :: rest)).1 = ((workspace.step action).1.run rest).1 := rfl
    rw [later, ih, step_calls, entriesAlong, List.append_assoc]

end Workspace

end TableQuery
