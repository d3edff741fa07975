import TableQuery.Proofs.Scope.Application
import TableQuery.Proofs.Scope.Definition
import TableQuery.Proofs.Workspace.Step

/-!
# Scopes along a run

Only definitions change the scopes of a workspace, and each of them the scopes of its model:
`run_defining`. `run_definitions` says which scopes a model has after any run, and what they do.
-/

namespace TableQuery

namespace Action

variable {ι : Type} {model : ι} {action : Action ι} [DecidableEq ι]

/-- The name and the body of the scope that the action defines for the model. -/
def definition? (model : ι) : Action ι → Option (String × ScopeBody)
  | .defineScope other name body => if other = model then some (name, body) else none
  | _ => none

theorem eq_of_definition? {name : String} {body : ScopeBody}
    (defines : action.definition? model = some (name, body)) :
    action = .defineScope model name body := by
  cases action with
  | defineScope other named given =>
    rw [definition?] at defines
    split at defines
    case isTrue same => cases defines; rw [same]
    case isFalse => cases defines
  | _ => cases defines

theorem mem_definitions {actions : List (Action ι)} {name : String} {body : ScopeBody} :
    (name, body) ∈ actions.filterMap (definition? model) ↔
      .defineScope model name body ∈ actions := by
  rw [List.mem_filterMap]
  constructor
  · rintro ⟨action, member, defines⟩
    exact eq_of_definition? defines ▸ member
  · exact fun member => ⟨_, member, if_pos rfl⟩

end Action

namespace Workspace

variable {ι α : Type} {models : ι → Model α}

theorem step_defining [DecidableEq ι] (workspace : Workspace models) (action : Action ι)
    (model : ι) : (workspace.step action).1.scopes model =
      (action.definition? model).toList.foldl ScopeRegistry.defining (workspace.scopes model) := by
  cases action with
  | defineScope other name body =>
    rw [step]
    by_cases same : other = model
    · subst same
      simp only [Action.definition?, if_pos, Option.toList_some, List.foldl_cons, List.foldl_nil,
        ScopeRegistry.defining]
      cases (workspace.scopes other).define name body with
      | ok registry => exact if_pos rfl
      | error e => rfl
    · simp only [Action.definition?, if_neg same, Option.toList_none, List.foldl_nil]
      cases (workspace.scopes other).define name body with
      | ok registry => exact if_neg (Ne.symm same)
      | error e => rfl
  | _ => exact congrFun (step_scopes (by simp)) model

/-- The scopes of a model after a run are those before it with the definitions for the model. -/
theorem run_defining [DecidableEq ι] (workspace : Workspace models) (actions : List (Action ι))
    (model : ι) : (workspace.run actions).1.scopes model =
      (actions.filterMap (Action.definition? model)).foldl ScopeRegistry.defining
        (workspace.scopes model) := by
  induction actions generalizing workspace with
  | nil => rfl
  | cons action rest ih =>
    rw [run_cons, ih, step_defining]
    cases here : action.definition? model with
    | none => rw [List.filterMap_cons_none here]; rfl
    | some definition => rw [List.filterMap_cons_some here]; rfl

variable [DecidableEq ι]

theorem getElem?_run (models : ι → Model α) (records : List Record) (actions : List (Action ι))
    (model : ι) (name : String) :
    (((start models records).run actions).1.scopes model).bodies[name]? =
      ScopeRegistry.latest? (actions.filterMap (Action.definition? model)) name := by
  rw [run_defining, ScopeRegistry.getElem?_foldl_defining]
  exact Option.or_none

theorem table_run (models : ι → Model α) (records : List Record) (actions : List (Action ι))
    (model : ι) :
    (((start models records).run actions).1.scopes model).table = (models model).table := by
  rw [run_defining, ScopeRegistry.table_foldl_defining]
  rfl

/-- Definitions of a model's scopes, at any time. One is accepted if its name is an identifier and
no operation's and its body is not a blank formula, and then it changes what its name stands for and
nothing else; any other is rejected and changes nothing. So the model has the scopes for which a
definition has been accepted, all of them with such names, and lists them in strictly ascending
order. A scope runs the body of the last definition that was accepted for it: steps run without
arguments, or with those of the call if the definition takes them, and a formula adds itself to
every query. The scope itself is out of reach meanwhile, which makes no difference if nothing in it
leads back to it. Any other scope is unknown. -/
theorem run_definitions (models : ι → Model α) (records : List Record)
    (actions : List (Action ι)) (model : ι) :
    let now := ((start models records).run actions).1
    let registry := now.scopes model
    let current := ScopeRegistry.latest? (actions.filterMap (Action.definition? model))
    (∀ (name : String) (body : ScopeBody), ScopeRegistry.Acceptable name body →
      ∃ next : ScopeRegistry,
        now.step (.defineScope model name body) = (now.setScopes model next, .done) ∧
        next.table = registry.table ∧ ∀ other : String, next.bodies[other]? =
          if name = other then some body else registry.bodies[other]?) ∧
    (∀ (name : String) (body : ScopeBody), ¬ScopeRegistry.Acceptable name body →
      ∃ fault, now.step (.defineScope model name body) =
        (now, .failure (.invalidScope (models model).table name fault))) ∧
    (∀ name, registry.contains name = true ↔
      ∃ body, .defineScope model name body ∈ actions ∧ ScopeRegistry.Acceptable name body) ∧
    (∀ name, registry.contains name = true →
      ScopeRegistry.IsIdentifier name ∧ name ∉ ScopeRegistry.reservedNames) ∧
    (registry.names.Pairwise (· < ·) ∧ registry.names.length = registry.size ∧
      ∀ name, name ∈ registry.names ↔ registry.contains name = true) ∧
    (∀ name args query, current name = none →
      registry.apply name args query = .error (.unknownScope (models model).table name)) ∧
    (∀ name steps args query, current name = some (.steps steps) →
      registry.apply name args query =
        QueryStep.performAll (registry.without name).apply [] steps query ∧
      (¬Relation.TransGen registry.Uses name name →
        registry.apply name args query = QueryStep.performAll registry.apply [] steps query)) ∧
    (∀ name steps args query, current name = some (.withArgs steps) →
      registry.apply name args query =
        QueryStep.performAll (registry.without name).apply args steps query ∧
      (¬Relation.TransGen registry.Uses name name →
        registry.apply name args query = QueryStep.performAll registry.apply args steps query)) ∧
    (∀ name text args query, current name = some (.formula text) →
      registry.apply name args query =
        .ok { query with conditions := query.conditions ++ [.raw text] }) := by
  intro now registry current
  have bodies (name : String) : registry.bodies[name]? = current name :=
    getElem?_run models records actions model name
  have table : registry.table = (models model).table := table_run models records actions model
  have contains (name : String) : registry.contains name = true ↔
      ∃ body, .defineScope model name body ∈ actions ∧ ScopeRegistry.Acceptable name body := by
    simp only [ScopeRegistry.contains_iff, bodies, current, ScopeRegistry.exists_latest?_iff,
      Action.mem_definitions]
  have runs {name : String} {body : ScopeBody} (defined : current name = some body)
      (args : List Value) (query : Query) :
      registry.apply name args query = QueryStep.performAll (registry.without name).apply
          (body.passed args) body.toSteps query ∧
        (¬Relation.TransGen registry.Uses name name → registry.apply name args query =
          QueryStep.performAll registry.apply (body.passed args) body.toSteps query) := by
    have found := (bodies name).trans defined
    refine ⟨ScopeRegistry.apply_of_found found args query, fun onward => ?_⟩
    exact ScopeRegistry.apply_of_onward found onward args query
  refine ⟨fun name body acceptable => ?_, fun name body rejected => ?_, contains,
    fun name known => ?_, ⟨registry.pairwise_names, registry.length_names,
      fun name => ScopeRegistry.mem_names⟩, fun name args query undefined => ?_,
    fun name steps args query defined => runs defined args query,
    fun name steps args query defined => runs defined args query,
    fun name text args query defined => ?_⟩
  · refine ⟨{ registry with bodies := registry.bodies.insert name body }, ?_, rfl,
      fun other => ?_⟩
    · rw [step, ScopeRegistry.define_of_acceptable acceptable]
    · refine Std.TreeMap.getElem?_insert.trans ?_
      simp only [Std.compare_eq_iff_eq]
  · obtain ⟨fault, refuses⟩ := ScopeRegistry.exists_fault_of_not_acceptable rejected registry
    refine ⟨fault, ?_⟩
    rw [step, refuses, table]
  · obtain ⟨body, _, acceptable⟩ := (contains name).1 known
    exact ⟨acceptable.identifier, acceptable.unreserved⟩
  · rw [ScopeRegistry.apply, ScopeRegistry.applyWithin_of_unknown ((bodies name).trans undefined),
      table]
  · have acceptable := (ScopeRegistry.acceptable_of_latest? defined).2
    exact ScopeRegistry.apply_formula ((bodies name).trans defined)
      (acceptable.nonblank text rfl) args query

/-- A scope is defined anew, an operation's name and a blank formula are rejected, a scope uses
another one as it is defined in the end, and arguments reach the steps of a scope that takes them. -/
theorem run_definitions_of_redefined :
    let models : Unit → Model Record := fun _ => { table := "Posts", ofRecord := .ok }
    let actions : List (Action Unit) :=
      [.defineScope () "open" (.formula "{Open}"), .defineScope () "limit" (.formula "{Open}"),
        .defineScope () "by" (.withArgs [.limitByArg]),
        .defineScope () "été_2" (.steps [.scope "open", .limit 3, .limitByArg]),
        .defineScope () "by" (.withArgs [.filterByArg "author" 1, .limitByArg, .scope "open"]),
        .defineScope () "open" (.formula "NOT({Closed})"),
        .defineScope () "open" (.formula "\u2003")]
    let now := ((start models []).run actions).1
    (∃ next, now.step (.defineScope () "_" (.withArgs [.limitByArg])) =
      (now.setScopes () next, .done)) ∧
    (∃ fault, now.step (.defineScope () "2nd" (.withArgs [.limitByArg])) =
      (now, .failure (.invalidScope "Posts" "2nd" fault))) ∧
    "été_2" ∈ (now.scopes ()).names ∧ "limit" ∉ (now.scopes ()).names ∧
    (now.scopes ()).apply "été_2" [.int 8] .all =
      .ok { conditions := [.raw "NOT({Closed})"], limit := some 3 } ∧
    (now.scopes ()).apply "by" [.int 8, .text "Ann"] .all =
      .ok
        { conditions := [.equals "author" (.text "Ann"), .raw "NOT({Closed})"]
          limit := some 8 } := by
  intro models actions
  have bodies := getElem?_run models [] actions ()
  have facts := run_definitions models [] actions ()
  generalize ((start models []).run actions).1 = now at bodies facts
  obtain ⟨accepts, rejects, contains, named, ⟨_, _, listed⟩, _, takes, passes, adds⟩ := facts
  have summer : ScopeRegistry.Acceptable "été_2"
      (.steps [.scope "open", .limit 3, .limitByArg]) := by decide +kernel
  have written : ScopeRegistry.Acceptable "by"
      (.withArgs [.filterByArg "author" 1, .limitByArg, .scope "open"]) := by decide +kernel
  have opened : ScopeRegistry.Acceptable "open" (.formula "NOT({Closed})") := by decide +kernel
  have blank : ¬ScopeRegistry.Acceptable "open" (.formula "\u2003") := by decide +kernel
  obtain ⟨summerBody, byBody, openBody⟩ :
      ScopeRegistry.latest? (actions.filterMap (Action.definition? ())) "été_2" =
        some (.steps [.scope "open", .limit 3, .limitByArg]) ∧
      ScopeRegistry.latest? (actions.filterMap (Action.definition? ())) "by" =
        some (.withArgs [.filterByArg "author" 1, .limitByArg, .scope "open"]) ∧
      ScopeRegistry.latest? (actions.filterMap (Action.definition? ())) "open" =
        some (.formula "NOT({Closed})") := by
    simp [actions, Action.definition?, ScopeRegistry.latest?, ScopeRegistry.accepted?, summer,
      written, opened, blank]
  have leaves : ∀ definition ∈ actions.filterMap (Action.definition? ()),
      ∀ callee ∈ definition.2.toSteps.filterMap QueryStep.scope?,
        definition.1 ≠ "open" ∧ callee = "open" := by decide +kernel
  have onward : (now.scopes ()).Acyclic := by
    refine ScopeRegistry.acyclic_of_rank (fun name => if name = "open" then 0 else 1) ?_
    intro caller callee uses
    obtain ⟨body, found, used⟩ := uses
    rw [bodies] at found
    obtain ⟨elsewhere, rfl⟩ := leaves _ (ScopeRegistry.acceptable_of_latest? found).1 callee used
    rw [if_pos rfl, if_neg elsewhere]
    exact Nat.one_pos
  obtain ⟨next, accepted, _⟩ := accepts "_" (.withArgs [.limitByArg]) (by decide +kernel)
  refine ⟨⟨next, accepted⟩, rejects "2nd" (.withArgs [.limitByArg]) (by decide +kernel),
    (listed "été_2").2 ((contains "été_2").2 ⟨_, ?_, summer⟩), fun member => ?_, ?_, ?_⟩
  · simp [actions]
  · exact (named "limit" ((listed "limit").1 member)).2 (by decide +kernel)
  · rw [(takes "été_2" _ [.int 8] .all summerBody).2 (onward _), QueryStep.performAll,
      List.foldlM_cons, QueryStep.perform, adds "open" _ [] .all openBody]
    rfl
  · have given : QueryStep.performAll (now.scopes ()).apply [.int 8, .text "Ann"]
        [.filterByArg "author" 1, .limitByArg, .scope "open"] .all =
      QueryStep.performAll (now.scopes ()).apply [.int 8, .text "Ann"] [.scope "open"]
        { conditions := [.equals "author" (.text "Ann")], limit := some 8 } := rfl
    rw [(passes "by" _ [.int 8, .text "Ann"] .all byBody).2 (onward _), given,
      QueryStep.performAll, List.foldlM_cons, QueryStep.perform, adds "open" _ [] _ openBody]
    rfl

end Workspace

end TableQuery
