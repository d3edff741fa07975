import TableQuery.Proofs.Condition.Trivial
import TableQuery.Proofs.Query.Fetching
import TableQuery.Proofs.Scope.Inlining
import TableQuery.Proofs.Workspace.CallLog
import TableQuery.Proofs.Workspace.Known

/-!
# Queries that restrict

No relation of a workspace ever has a trivial condition: chains and scopes come to refinements in
the end, and no refinement adds one. `Workspace.Everywhere.run` is that argument for any property of
queries that refinements keep. So a query that compiles goes without a filter just where it has no
condition at all, and a blank filter never reaches the store: `Workspace.run_restricting`.
-/

namespace TableQuery

/-! ## Properties that refinements keep -/

namespace Query

variable {P : Query → Prop}

/-- A property that is not lost by refinements. -/
def KeptByRefinements (P : Query → Prop) : Prop :=
  ∀ (refinement : Refinement) (query : Query), P query → P (refinement.refine query)

/-- A property that is not lost by scopes, as far as they do not fail. -/
def KeptByScopes (P : Query → Prop) (scope : String → List Value → Query → Except Error Query) :
    Prop :=
  ∀ name args query next, P query → scope name args query = .ok next → P next

theorem KeptByRefinements.instruction (kept : KeptByRefinements P)
    {scope : String → List Value → Query → Except Error Query} (scopes : KeptByScopes P scope)
    {instruction : Instruction} {query next : Query} (holds : P query)
    (performs : instruction.perform scope query = .ok next) : P next := by
  cases instruction with
  | own primitive =>
    obtain ⟨refinement, _, rfl⟩ := map_eq_ok.1 performs
    exact kept refinement query holds
  | call name args => exact scopes name args query next holds performs

theorem KeptByRefinements.performAll (kept : KeptByRefinements P)
    {scope : String → List Value → Query → Except Error Query} (scopes : KeptByScopes P scope)
    {args : List Value} {steps : List QueryStep} {query next : Query} (holds : P query)
    (performs : QueryStep.performAll scope args steps query = .ok next) : P next := by
  induction steps generalizing query with
  | nil =>
    cases performs
    exact holds
  | cons step rest ih =>
    rw [QueryStep.performAll, List.foldlM_cons] at performs
    obtain ⟨between, first, others⟩ := bind_eq_ok.1 performs
    rw [QueryStep.perform_eq] at first
    exact ih (kept.instruction scopes holds first) others

theorem KeptByRefinements.applyWithin (kept : KeptByRefinements P) (depth : Nat)
    (registry : ScopeRegistry) : KeptByScopes P (registry.applyWithin depth) := by
  -- Inside a scope the depth is one less and so is the registry, whatever the scopes use.
  induction depth generalizing registry with
  | zero => exact nofun
  | succ depth ih =>
    intro name args query next holds applies
    rw [ScopeRegistry.applyWithin] at applies
    split at applies
    · cases applies
    · exact kept.performAll (ih (registry.without name)) holds applies

theorem KeptByRefinements.apply (kept : KeptByRefinements P) (registry : ScopeRegistry) :
    KeptByScopes P registry.apply :=
  kept.applyWithin registry.size registry

end Query

namespace Workspace

variable {ι α : Type} {models : ι → Model α} {workspace : Workspace models} {P : Query → Prop}

/-- The queries of all named relations have the property. -/
def Everywhere (P : Query → Prop) (workspace : Workspace models) : Prop :=
  ∀ name model query, workspace.known name = some (model, query) → P query

/-- An action gives names only to queries with the property. -/
theorem Everywhere.binding? (everywhere : Everywhere P workspace) (kept : Query.KeptByRefinements P)
    (all : P .all) {action : Action ι} {target : String} {model : ι} {query : Query}
    (gives : workspace.binding? action = some (target, model, query)) : P query := by
  cases action with
  | start other named refinement =>
    obtain ⟨refined, performs, same⟩ := Option.map_eq_some_iff.1 gives
    cases same
    exact kept.performAll (kept.apply _) all (toOption_eq_some.1 performs)
  | chain source named steps =>
    obtain ⟨⟨other, held⟩, known, gives⟩ := Option.bind_eq_some_iff.1 gives
    obtain ⟨refined, performs, same⟩ := Option.map_eq_some_iff.1 gives
    cases same
    exact kept.performAll (kept.apply _) (everywhere source _ _ known)
      (toOption_eq_some.1 performs)
  | _ => cases gives

variable [DecidableEq ι]

theorem Everywhere.step (everywhere : Everywhere P workspace) (kept : Query.KeptByRefinements P)
    (all : P .all) (action : Action ι) : Everywhere P (workspace.step action).1 := by
  intro name model query known
  rw [step_known] at known
  cases gives : workspace.binding? action with
  | none =>
    rw [gives] at known
    exact everywhere name model query known
  | some given =>
    obtain ⟨target, bound⟩ := given
    rw [gives] at known
    dsimp only at known
    split at known
    · cases known
      exact everywhere.binding? kept all gives
    · exact everywhere name model query known

/-- What holds of every record's query and is kept by refinements holds of all relations of a
workspace. -/
theorem Everywhere.run (everywhere : Everywhere P workspace) (kept : Query.KeptByRefinements P)
    (all : P .all) (actions : List (Action ι)) : Everywhere P (workspace.run actions).1 := by
  induction actions generalizing workspace with
  | nil => exact everywhere
  | cons action rest ih => exact ih (everywhere.step kept all action)

end Workspace

/-! ## Conditions that restrict -/

namespace Query

variable {query : Query} {mapping : FieldMapping} {params : FetchParams}

/-- No condition of the query is trivial. -/
def Restricting (query : Query) : Prop :=
  ∀ c ∈ query.conditions, c.isTrivial = false

theorem restricting_all : Query.all.Restricting :=
  nofun

theorem keptByRefinements_restricting : KeptByRefinements Restricting := by
  intro refinement query restricting c member
  rw [refinement.refine_eq] at member
  rcases List.mem_append.1 member with earlier | added
  · exact restricting c earlier
  · cases refinement with
    | filter given => exact Filter.isTrivial_of_condition? (Option.mem_toList.1 added)
    | _ => cases added

theorem Restricting.filter_eq_none_iff (restricting : query.Restricting)
    (compiles : query.compile mapping = .ok params) :
    params.filter = none ↔ query.conditions = [] := by
  have written := (compile_eq_ok.1 compiles).1
  constructor
  · intro absent
    rw [absent, Formula.filterText_eq_none_iff] at written
    refine List.eq_nil_iff_forall_not_mem.2 fun c member => ?_
    have trivial := written c member
    rw [restricting c member] at trivial
    cases trivial
  · intro unrestricted
    rw [unrestricted] at written
    exact (Except.ok.inj written).symm

end Query

/-! ## Filters in the log -/

/-- The call has parameters that some query of a model compiles to. -/
def FetchCall.Compiled {ι α : Type} (models : ι → Model α) (call : FetchCall) : Prop :=
  ∃ model query, Query.compile query (models model).mapping = .ok call.params

theorem Query.compile_of_mem_entries {α : Type} {model : Model α} {query : Query} {call : FetchCall}
    (logged : call ∈ query.entries model) : query.compile model.mapping = .ok call.params := by
  unfold entries at logged
  split at logged
  case h_1 params compiles =>
    obtain rfl := List.mem_singleton.1 logged
    exact compiles
  case h_2 => cases logged

namespace Workspace

variable {ι α : Type} {models : ι → Model α} {workspace : Workspace models}

theorem compiled_of_terminal {model : ι} {operation : Terminal} {relation : Relation (models model)}
    {call : FetchCall} (logged : call ∈ operation.entries relation) : call.Compiled models := by
  unfold Terminal.entries at logged
  split at logged
  · exact ⟨model, _, Query.compile_of_mem_entries logged⟩
  · cases logged

theorem compiled_of_loadLog {model : ι} {relation : Relation (models model)} {n : Nat}
    {store : CannedStore} {call : FetchCall} (logged : call ∈ relation.loadLog n store) :
    call.Compiled models := by
  induction n generalizing relation store with
  | zero => cases logged
  | succ n ih =>
    rcases List.mem_append.1 logged with first | later
    · unfold Relation.loadEntries at first
      split at first
      · cases first
      · exact ⟨model, _, Query.compile_of_mem_entries first⟩
    · exact ih later

theorem compiled_of_entriesNamed {source : String} {entries : NamedRelation models → List FetchCall}
    {call : FetchCall} (each : ∀ held, call ∈ entries held → call.Compiled models)
    (logged : call ∈ workspace.entriesNamed source entries) : call.Compiled models := by
  unfold entriesNamed at logged
  split at logged
  · exact each _ logged
  · cases logged

/-- An entry of the log comes from a query, unless the store is asked without one. -/
theorem compiled_of_entries {action : Action ι} {call : FetchCall}
    (logged : call ∈ workspace.entries action) :
    call.Compiled models ∨ action = .fetch call.table call.params := by
  cases action with
  | terminal subject operation =>
    cases subject with
    | named source =>
      exact .inl (compiled_of_entriesNamed (fun held => compiled_of_terminal) logged)
    | model model => exact .inl (compiled_of_terminal logged)
  | loadConcurrently source calls =>
    exact .inl (compiled_of_entriesNamed (fun held => compiled_of_loadLog) logged)
  | loadTwice source =>
    exact .inl (compiled_of_entriesNamed (fun held => compiled_of_loadLog) logged)
  | fetch table params =>
    obtain rfl := List.mem_singleton.1 logged
    exact .inr rfl
  | _ => cases logged

variable [DecidableEq ι]

theorem run_compiled {actions : List (Action ι)} {call : FetchCall}
    (logged : call ∈ (workspace.run actions).1.store.calls) :
    call ∈ workspace.store.calls ∨ call.Compiled models ∨
      .fetch call.table call.params ∈ actions := by
  induction actions generalizing workspace with
  | nil => exact .inl logged
  | cons action rest ih =>
    rw [run_cons] at logged
    rcases ih logged with before | compiled | asked
    · rw [step_calls] at before
      rcases List.mem_append.1 before with earlier | added
      · exact .inl earlier
      · rcases compiled_of_entries added with compiled | same
        · exact .inr (.inl compiled)
        · exact .inr (.inr (same ▸ List.mem_cons_self))
    · exact .inr (.inl compiled)
    · exact .inr (.inr (List.mem_cons_of_mem _ asked))

/-- The trivial conditions are those that compilation leaves nothing of, whatever the mapping, alone
or among others; what it leaves has a character that is not white space. Whatever a workspace has
been through, no relation in it has a trivial condition, and a relation that compiles goes without a
filter just where it has no conditions. The store has never seen a blank filter but in a fetch
without a query. -/
theorem run_restricting (models : ι → Model α) (records : List Record)
    (actions : List (Action ι)) :
    let now := ((start models records).run actions).1
    (∀ (mapping : FieldMapping) (condition : Condition),
      Formula.filterText mapping [condition] = .ok none ↔ condition.isTrivial = true) ∧
    (∀ (mapping : FieldMapping) (conditions : List Condition),
      Formula.filterText mapping conditions = .ok none ↔ ∀ c ∈ conditions, c.isTrivial = true) ∧
    (∀ (mapping : FieldMapping) (conditions : List Condition) (text : String),
      Formula.filterText mapping conditions = .ok (some text) →
        ∃ c ∈ text.toList, Text.isWhiteSpace c = false) ∧
    (∀ (name : String) (held : NamedRelation models), now.relations[name]? = some held →
      (∀ c ∈ held.relation.query.conditions, c.isTrivial = false) ∧
      ∀ params, held.relation.compile = .ok params →
        (params.filter = none ↔ held.relation.query.conditions = [])) ∧
    (∀ call ∈ now.store.calls, ∀ text, call.params.filter = some text →
      (∃ c ∈ text.toList, Text.isWhiteSpace c = false) ∨
        .fetch call.table call.params ∈ actions) := by
  intro now
  refine ⟨fun mapping condition => ?_, fun mapping conditions => Formula.filterText_eq_none_iff,
    fun mapping conditions text compiles => ?_, fun name held bound => ?_,
    fun call logged text filtered => ?_⟩
  · rw [Formula.filterText_eq_none_iff, List.forall_mem_singleton]
  · exact Text.isBlank_eq_false_iff.1 (Formula.isBlank_of_filterText compiles)
  · have everywhere : Everywhere Query.Restricting now :=
      Everywhere.run nofun Query.keptByRefinements_restricting Query.restricting_all actions
    have restricting := everywhere name held.model held.relation.query (known_of_bound bound)
    exact ⟨restricting, fun params compiles => restricting.filter_eq_none_iff compiles⟩
  · rcases run_compiled logged with before | ⟨model, query, compiles⟩ | asked
    · cases before
    · have written := (Query.compile_eq_ok.1 compiles).1
      rw [filtered] at written
      exact .inl (Text.isBlank_eq_false_iff.1 (Formula.isBlank_of_filterText written))
    · exact .inr asked

/-- Blank formulas leave no trace, deep inside conjunctions or on their own. -/
theorem run_restricting_of_blank :
    let models : Unit → Model Record := fun _ => { table := "Users", ofRecord := .ok }
    let blank : Condition := .and [.raw "\u00a0", .and [.and [], .raw "\t"]]
    let actions : List (Action Unit) :=
      [.defineScope () "adults" (.formula "{Age} > 18"),
        .start () "everyone" (some (.filter (.ofCondition blank))),
        .chain "everyone" "adults" [.scope "adults", .filter (.raw " ")],
        .terminal (.named "adults") (.findFirst (.raw "{Name} = 'Ann'"))]
    let now := ((start models []).run actions).1
    Formula.filterText .empty [blank, .raw "\n"] = .ok none ∧
      (∃ held, now.relations["everyone"]? = some held ∧
        ∃ params, held.relation.compile = .ok params ∧ params.filter = none) ∧
      ∃ call ∈ now.store.calls, call.params.filter = some "AND({Age} > 18, {Name} = 'Ann')" ∧
        ∃ c ∈ "AND({Age} > 18, {Name} = 'Ann')".toList, Text.isWhiteSpace c = false := by
  intro models blank actions now
  obtain ⟨_, nothing, _, restricting, sent⟩ := run_restricting models [] actions
  have trivial : ∀ c ∈ [blank, .raw "\n"], c.isTrivial = true := by
    intro c member
    rcases List.mem_pair.1 member with rfl | rfl <;> decide
  have unfiltered := (restricting "everyone" _ rfl).2 _ rfl
  refine ⟨(nothing .empty _).2 trivial, ⟨_, rfl, _, rfl, unfiltered.2 rfl⟩,
    _, List.mem_singleton.2 rfl, rfl, ?_⟩
  refine (sent _ (List.mem_singleton.2 rfl) _ rfl).resolve_right fun asked => ?_
  simp [actions] at asked

end Workspace

end TableQuery
