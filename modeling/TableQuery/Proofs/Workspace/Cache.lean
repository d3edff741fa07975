import TableQuery.Proofs.Workspace.Step

/-!
# Loaded instances along a run

A relation is known in a workspace by its name, until another relation gets that name. All that can
happen to it meanwhile is that it loads: its query stays what it is, and it holds what its first
successful load has got, whatever becomes of the store and of other relations.

* `Workspace.Rebinds` says that an action gives a name to a new relation, and `Workspace.Keeps` that
  no action of a run does.
* `Workspace.firstFetched` is what the first successful load of a relation gets along a run.
-/

namespace TableQuery

namespace Action

variable {ι : Type}

/-- The action loads the relation of a name. -/
def loads (name : String) : Action ι → Bool
  | .terminal (.named source) operation => source = name && operation.isLoad
  | .loadConcurrently source n => source = name && n ≠ 0
  | .loadTwice source => source = name
  | _ => false

end Action

/-- The relation with other loaded instances, or with none. -/
def NamedRelation.withLoaded {ι α : Type} {models : ι → Model α} (held : NamedRelation models)
    (loaded : Option (List α)) : NamedRelation models :=
  ⟨held.model, held.relation.withLoaded loaded⟩

/-- The instances that a load of the relation would get now, if it succeeded. -/
def NamedRelation.fetched? {ι α : Type} {models : ι → Model α} (held : NamedRelation models)
    (store : CannedStore) : Option (List α) :=
  held.relation.query.fetched? (models held.model) store

namespace Workspace

variable {ι α : Type} {models : ι → Model α} {workspace : Workspace models} {name : String}
  {held : NamedRelation models}

/-- An operation on one name leaves the relations of other names alone. -/
theorem relation_of_leaving (source : String) {got : NamedRelation models → Option (List α)}
    {perform : NamedRelation models → Workspace models × Reply α}
    {after : (other : NamedRelation models) → Relation (models other.model) × CannedStore}
    (leaves : ∀ other, (perform other).1 = workspace.leaving source other (after other))
    (holds : ∀ other,
      (after other).1 = other.relation.withLoaded (other.relation.loaded <|> got other))
    (bound : workspace.relations[name]? = some held) :
    (workspace.withNamed source perform).1.relations[name]? = some
      (held.withLoaded (held.relation.loaded <|> if source = name then got held else none)) := by
  rw [relations_withNamed leaves, bound]
  split
  case isTrue same => rw [Option.map_some, holds]; rfl
  case isFalse other => simp [NamedRelation.withLoaded]

variable [DecidableEq ι]

/-- The action gives the name to a new relation. -/
def Rebinds (workspace : Workspace models) (name : String) (action : Action ι) : Prop :=
  action.target? = some name ∧
    ∃ query loaded, (workspace.step action).2 = .state query loaded

/-- No action of the run gives the name to a new relation. -/
def Keeps (workspace : Workspace models) (name : String) : List (Action ι) → Prop
  | [] => True
  | action :: rest =>
    ¬workspace.Rebinds name action ∧ (workspace.step action).1.Keeps name rest

/-- The instances that the first successful load of a named relation gets along a run. -/
def firstFetched (workspace : Workspace models) (name : String) (held : NamedRelation models) :
    List (Action ι) → Option (List α)
  | [] => none
  | action :: rest =>
    (if action.loads name then held.fetched? workspace.store else none) <|>
      (workspace.step action).1.firstFetched name held rest

/-! ## One action -/

theorem relation_of_target {action : Action ι} {other : String}
    (target : action.target? = some other) (kept : ¬workspace.Rebinds name action) :
    (workspace.step action).1.relations[name]? = workspace.relations[name]? := by
  rcases step_of_target target with ⟨same, _⟩ | ⟨model, query, named⟩
  · rw [same]
  · have distinct : other ≠ name := by
      rintro rfl
      exact kept ⟨target, query, false, by rw [named]⟩
    rw [named, relations_name, if_neg distinct]

/-- A relation whose name is not given away holds after an action what it held, or else what the
action has loaded. -/
theorem step_relation {action : Action ι} (bound : workspace.relations[name]? = some held)
    (kept : ¬workspace.Rebinds name action) :
    (workspace.step action).1.relations[name]? = some (held.withLoaded (held.relation.loaded <|>
      if action.loads name then held.fetched? workspace.store else none)) := by
  have unchanged {next : Workspace models}
      (same : next.relations[name]? = workspace.relations[name]?) :
      next.relations[name]? = some (held.withLoaded (held.relation.loaded <|>
        if false = true then held.fetched? workspace.store else none)) := by
    rw [same, bound]
    simp [NamedRelation.withLoaded]
  cases action with
  | terminal subject operation =>
    cases subject with
    | named source =>
      have left := relation_of_leaving source (fun _ => performNamed_eq operation)
        (fun other => operation.perform_relation other.relation workspace.store) bound
      refine left.trans ?_
      simp only [Action.loads, Bool.and_eq_true, decide_eq_true_eq, ite_and]
      rfl
    | model model => exact unchanged rfl
  | loadConcurrently source calls =>
    have left := relation_of_leaving source (fun _ => loadConcurrently_eq calls)
      (fun other => congrArg Prod.fst (other.relation.loadTimes_canned calls workspace.store)) bound
    refine left.trans ?_
    simp only [Action.loads, Bool.and_eq_true, decide_eq_true_eq, ite_and, ite_not]
    rfl
  | loadTwice source =>
    have left := relation_of_leaving source (fun _ => loadTwice_eq)
      (fun other => congrArg Prod.fst (other.relation.loadTimes_canned 2 workspace.store)) bound
    refine left.trans ?_
    simp only [Action.loads, decide_eq_true_eq]
    rfl
  | start | chain => exact unchanged (relation_of_target rfl kept)
  | defineScope model other body =>
    exact unchanged (congrArg (·[name]?) (step_defineScope model other body).1)
  | setRecords | failWith | recover | fetch => exact unchanged rfl
  | _ => exact unchanged (by rw [step_of_looks rfl])

/-- A relation that has got a new name has loaded nothing. -/
theorem unloaded_of_rebinds {action : Action ι} (rebinds : workspace.Rebinds name action) :
    ∃ fresh, (workspace.step action).1.relations[name]? = some fresh ∧
      fresh.relation.loaded = none := by
  rcases rebinds with ⟨target, query, loaded, told⟩
  rcases step_of_target target with ⟨_, silent⟩ | ⟨model, query, named⟩
  · exact absurd told (silent query loaded)
  · rw [named, relations_name, if_pos rfl]
    exact ⟨_, rfl, rfl⟩

/-! ## Runs -/

theorem firstFetched_withLoaded (loaded : Option (List α)) (actions : List (Action ι)) :
    workspace.firstFetched name (held.withLoaded loaded) actions =
      workspace.firstFetched name held actions := by
  induction actions generalizing workspace with
  | nil => rfl
  | cons action rest ih =>
    rw [firstFetched, firstFetched, ih]
    rfl

theorem run_relation {actions : List (Action ι)} (bound : workspace.relations[name]? = some held)
    (kept : workspace.Keeps name actions) :
    (workspace.run actions).1.relations[name]? = some (held.withLoaded
      (held.relation.loaded <|> workspace.firstFetched name held actions)) := by
  induction actions generalizing workspace held with
  | nil =>
    rw [firstFetched]
    refine bound.trans (congrArg some ?_)
    simp [NamedRelation.withLoaded]
  | cons action rest ih =>
    have next := step_relation bound kept.1
    rw [run_cons, ih next kept.2, firstFetched_withLoaded, firstFetched]
    refine congrArg (fun loaded => some (held.withLoaded loaded)) ?_
    rw [NamedRelation.withLoaded]
    cases held.relation.loaded <;> rfl

/-- What becomes of a relation along a run that keeps its name, and what then holds of it. Its query
stays, and it holds what its first successful load has got. Once it is loaded, every load answers
from that, and leaves the store alone. Operations of other kinds do the same whatever is loaded, and
leave it as it is. Relations that get a name have loaded nothing, and an action that neither loads a
relation nor gives its name away leaves it as it is. -/
theorem run_cache {actions : List (Action ι)} (bound : workspace.relations[name]? = some held)
    (kept : workspace.Keeps name actions) :
    let now := (workspace.run actions).1
    let cache := held.relation.loaded <|> workspace.firstFetched name held actions
    now.relations[name]? = some (held.withLoaded cache) ∧
    (∀ rows, cache = some rows →
      (now.step (.terminal (.named name) .load)).2 =
        .found (.ok (.rows rows)) (some true) now.store.calls ∧
      (now.step (.terminal (.named name) .each)).2 =
        .found (.ok (.visited rows)) (some true) now.store.calls ∧
      (now.step (.terminal (.named name) .count)).2 =
        .found (.ok (.count rows.length)) (some true) now.store.calls ∧
      ∀ operation : Terminal, operation.isLoad →
        (now.step (.terminal (.named name) operation)).1.store = now.store) ∧
    (∀ operation : Terminal, ¬operation.isLoad → ∀ (loaded : Option (List α)) (store : CannedStore),
      operation.perform (held.relation.withLoaded loaded) store =
        ((operation.perform held.relation store).1, held.relation.withLoaded loaded,
          (operation.perform held.relation store).2.2)) ∧
    (∀ target action, now.Rebinds target action →
      ∃ fresh, (now.step action).1.relations[target]? = some fresh ∧
        fresh.relation.loaded = none) ∧
    (∀ other action, ¬action.loads other → ¬now.Rebinds other action →
      ∀ found, now.relations[other]? = some found →
        (now.step action).1.relations[other]? = some found) := by
  intro now cache
  have here : now.relations[name]? = some (held.withLoaded cache) := run_relation bound kept
  refine ⟨here, ?_, ?_, ?_, ?_⟩
  · intro rows filled
    have loaded : (held.withLoaded cache).relation.loaded = some rows := filled
    have stepped (operation : Terminal) : now.step (.terminal (.named name) operation) =
        now.performNamed name (held.withLoaded cache) operation := withNamed_some here
    refine ⟨?_, ?_, ?_, ?_⟩
    · rw [stepped, performNamed, Terminal.perform_load_of_loaded loaded]
      simp [Relation.isLoaded, loaded]
    · rw [stepped, performNamed, Terminal.perform_each_of_loaded loaded]
      simp [Relation.isLoaded, loaded]
    · rw [stepped, performNamed, Terminal.perform_count_of_loaded loaded]
      simp [Relation.isLoaded, loaded]
    · intro operation load
      rw [stepped, performNamed_eq, leaving, Terminal.perform_store, Terminal.entries_of_load load]
      simp [Relation.loadEntries, Relation.isLoaded, loaded]
  · intro operation unread
    exact operation.perform_of_unread (Bool.eq_false_iff.2 unread) held.relation
  · intro target action rebinds
    exact unloaded_of_rebinds rebinds
  · intro other action idle keeps found at_
    have after := step_relation at_ keeps
    rw [if_neg idle] at after
    rw [after]
    simp [NamedRelation.withLoaded]

/-- What a count has got stays, although the store then loses its records and fails. -/
theorem run_cache_of_failing_store :
    let workspace : Workspace (fun _ : Unit => { table := "Users", ofRecord := .ok }) :=
      ((start _ [.new "rec1"]).step (.start () "users" none)).1
    let now := (workspace.run
      [.terminal (.named "users") .count, .setRecords [], .failWith .connection "down"]).1
    (now.step (.terminal (.named "users") .load)).2 =
      .found (.ok (.rows [.new "rec1"])) (some true) now.store.calls := by
  intro workspace now
  have bound : workspace.relations["users"]? = some ⟨(), .all⟩ := by
    refine (relations_name "users" () .all "users").trans ?_
    rfl
  have kept : workspace.Keeps "users"
      [.terminal (.named "users") .count, .setRecords [], .failWith .connection "down"] := by
    simp [Keeps, Rebinds, Action.target?]
  have loaded := (run_cache bound kept).2.1 [.new "rec1"] rfl
  exact loaded.1

end Workspace

end TableQuery
