import TableQuery.Proofs.Workspace.Definition
import TableQuery.Proofs.Workspace.Known

/-!
# Models keep to their own scopes

What a workspace answers about a model's scopes is the same whether or not scopes have been defined
for other models, even where models share a table and names of scopes.
`Action.definesElsewhere` tells the definitions that are left out, and `Workspace.answersAbout`
collects the answers: to definitions and look-ups of the model's scopes, and to uses of scopes by
relations of the model. A name stands for relations of one model, as a variable has one type;
`Action.Respects` says of an action that it keeps to that.

A run with all definitions and one without those for other models go side by side. They agree on the
model's scopes and on the queries under the model's names (`Workspace.Agrees`), and every action
keeps that agreement.
-/

namespace TableQuery

/-! ## Actions and models -/

namespace Action

variable {ι : Type} {model : ι} {modelOf : String → ι} {action : Action ι}

/-- The action gives every name to relations of its model only. -/
def Respects (modelOf : String → ι) : Action ι → Prop
  | .start model target _ => modelOf target = model
  | .chain source target _ => modelOf target = modelOf source
  | _ => True

/-- The model whose scopes the action defines, looks up or uses. -/
def scopesOf? (modelOf : String → ι) : Action ι → Option ι
  | .start model _ _ | .defineScope model _ _ | .scopes model | .containsScope model _ =>
    some model
  | .chain source _ _ | .applyScope source _ _ => some (modelOf source)
  | _ => none

variable [DecidableEq ι]

/-- The action defines a scope of another model. -/
def definesElsewhere (model : ι) : Action ι → Bool
  | .defineScope other _ _ => other ≠ model
  | _ => false

theorem exists_of_definesElsewhere (elsewhere : action.definesElsewhere model = true) :
    ∃ other name body, action = .defineScope other name body ∧ other ≠ model := by
  cases action with
  | defineScope other name body => exact ⟨other, name, body, rfl, of_decide_eq_true elsewhere⟩
  | _ => cases elsewhere

theorem definition?_of_definesElsewhere (elsewhere : action.definesElsewhere model = true) :
    action.definition? model = none := by
  obtain ⟨other, name, body, rfl, distinct⟩ := exists_of_definesElsewhere elsewhere
  exact if_neg distinct

theorem scopesOf?_of_definesElsewhere (elsewhere : action.definesElsewhere model = true) :
    action.scopesOf? modelOf ≠ some model := by
  obtain ⟨other, name, body, rfl, distinct⟩ := exists_of_definesElsewhere elsewhere
  exact mt Option.some.inj distinct

end Action

namespace Workspace

variable {ι α : Type} {models : ι → Model α} {workspace full reduced : Workspace models}
  {source name : String} {modelOf : String → ι} {model : ι} {action : Action ι}

/-! ## Names that are given away -/

theorem refine_reply (target : String) (model : ι) (relation : Relation (models model))
    (steps : List QueryStep) : (workspace.refine target model relation steps).2 =
      match QueryStep.performAll (workspace.scopes model).apply [] steps relation.query with
      | .ok query => .state query false
      | .error e => .failure e := by
  unfold refine Relation.chain
  cases QueryStep.performAll (workspace.scopes model).apply [] steps relation.query <;> rfl

theorem scopesOf?_of_binding? {target : String} {bound : ι × Query}
    (respects : action.Respects modelOf)
    (gives : workspace.binding? action = some (target, bound)) :
    action.scopesOf? modelOf = some (modelOf target) := by
  cases action with
  | start other named refinement =>
    obtain ⟨query, _, same⟩ := Option.map_eq_some_iff.1 gives
    cases same
    exact congrArg some respects.symm
  | chain source named steps =>
    obtain ⟨known, _, gives⟩ := Option.bind_eq_some_iff.1 gives
    obtain ⟨query, _, same⟩ := Option.map_eq_some_iff.1 gives
    cases same
    exact congrArg some respects.symm
  | _ => cases gives

/-- Actions about other models leave the queries under the model's names as they are. -/
theorem step_known_of_elsewhere [DecidableEq ι] (respects : action.Respects modelOf)
    (elsewhere : action.scopesOf? modelOf ≠ some model) (named : modelOf name = model) :
    (workspace.step action).1.known name = workspace.known name := by
  rw [step_known]
  cases gives : workspace.binding? action with
  | none => rfl
  | some given =>
    obtain ⟨target, bound⟩ := given
    have other : target ≠ name := by
      rintro rfl
      exact elsewhere (named ▸ scopesOf?_of_binding? respects gives)
    exact if_neg other

/-! ## Agreement -/

/-- Two workspaces agree on the scopes of a model and on the queries under its names, which stand
for relations of the model only. -/
structure Agrees (modelOf : String → ι) (model : ι) (full reduced : Workspace models) : Prop where
  scopes : full.scopes model = reduced.scopes model
  known : ∀ name, modelOf name = model → full.known name = reduced.known name
  own : ∀ name, modelOf name = model → ∀ other query,
    full.known name = some (other, query) → other = model

namespace Agrees

variable (agrees : Agrees modelOf model full reduced)

include agrees

/-- What a name of the model stands for on both sides. -/
theorem named (about : modelOf source = model) :
    (full.relations[source]? = none ∧ reduced.relations[source]? = none) ∨
      ∃ first second : Relation (models model), full.relations[source]? = some ⟨model, first⟩ ∧
        reduced.relations[source]? = some ⟨model, second⟩ ∧ first.query = second.query := by
  have alike := agrees.known source about
  cases here : full.known source with
  | none => exact .inl ⟨Option.map_eq_none_iff.1 here, Option.map_eq_none_iff.1 (alike ▸ here)⟩
  | some bound =>
    obtain ⟨other, query⟩ := bound
    obtain rfl := agrees.own source about other query here
    obtain ⟨first, found, same⟩ := bound_of_known here
    obtain ⟨second, also, again⟩ := bound_of_known (alike ▸ here)
    exact .inr ⟨first, second, found, also, same.trans again.symm⟩

/-- An action about the model gives the same name away on both sides, to the same query. -/
theorem binding? (about : action.scopesOf? modelOf = some model) :
    full.binding? action = reduced.binding? action := by
  cases action with
  | start other target refinement =>
    cases about
    rw [Workspace.binding?, Workspace.binding?, agrees.scopes]
  | chain source target steps =>
    rw [Workspace.binding?, Workspace.binding?, ← agrees.known source (Option.some.inj about)]
    cases here : full.known source with
    | none => rfl
    | some bound =>
      obtain ⟨other, query⟩ := bound
      obtain rfl := agrees.own source (Option.some.inj about) other query here
      simp only [Option.bind_some, agrees.scopes]
  | _ => rfl

theorem eq_of_binding? {target : String} {other : ι} {query : Query}
    (about : action.scopesOf? modelOf = some model)
    (gives : full.binding? action = some (target, other, query)) : other = model := by
  cases action with
  | start started named refinement =>
    obtain ⟨refined, _, same⟩ := Option.map_eq_some_iff.1 gives
    cases about
    cases same
    rfl
  | chain source named steps =>
    obtain ⟨⟨started, held⟩, known, gives⟩ := Option.bind_eq_some_iff.1 gives
    obtain ⟨refined, _, same⟩ := Option.map_eq_some_iff.1 gives
    cases same
    exact agrees.own source (Option.some.inj about) _ _ known
  | _ => cases gives

variable [DecidableEq ι]

/-- Actions about the model are answered alike. -/
theorem reply (about : action.scopesOf? modelOf = some model) :
    (full.step action).2 = (reduced.step action).2 := by
  cases action with
  | start other target refinement =>
    cases about
    rw [Workspace.step, Workspace.step, refine_reply, refine_reply, agrees.scopes]
  | chain source target steps =>
    rw [Workspace.step, Workspace.step]
    rcases agrees.named (Option.some.inj about) with
      ⟨here, there⟩ | ⟨first, second, here, there, same⟩
    · rw [withNamed_none here, withNamed_none there]
    · rw [withNamed_some here, withNamed_some there, refine_reply, refine_reply, agrees.scopes,
        same]
  | applyScope source name args =>
    rw [Workspace.step, Workspace.step]
    rcases agrees.named (Option.some.inj about) with
      ⟨here, there⟩ | ⟨first, second, here, there, same⟩
    · rw [withNamed_none here, withNamed_none there]
    · rw [withNamed_some here, withNamed_some there]
      simp only [agrees.scopes, same]
      split <;> rfl
  | defineScope other name body =>
    cases about
    rw [Workspace.step, Workspace.step, agrees.scopes]
    split <;> rfl
  | scopes other | containsScope other name =>
    cases about
    rw [Workspace.step, Workspace.step, agrees.scopes]
  | _ => cases about

/-- An action that both sides take keeps the agreement. -/
theorem step (respects : action.Respects modelOf) :
    Agrees modelOf model (full.step action).1 (reduced.step action).1 := by
  have scopes : (full.step action).1.scopes model = (reduced.step action).1.scopes model := by
    rw [step_defining, step_defining, agrees.scopes]
  -- Only actions about the model give its names away, and those give the same on both sides.
  by_cases about : action.scopesOf? modelOf = some model
  · refine ⟨scopes, fun name named => ?_, fun name named other query => ?_⟩
    · rw [step_known, step_known, ← agrees.binding? about, agrees.known name named]
    · rw [step_known]
      cases gives : full.binding? action with
      | none => exact agrees.own name named other query
      | some given =>
        obtain ⟨target, bound⟩ := given
        simp only
        split
        · rintro ⟨⟩
          exact agrees.eq_of_binding? about gives
        · exact agrees.own name named other query
  · refine ⟨scopes, fun name named => ?_, fun name named other query => ?_⟩
    · rw [step_known_of_elsewhere respects about named, step_known_of_elsewhere respects about named,
        agrees.known name named]
    · rw [step_known_of_elsewhere respects about named]
      exact agrees.own name named other query

/-- A definition for another model, which only one side makes, keeps the agreement. -/
theorem skip (elsewhere : action.definesElsewhere model = true) :
    Agrees modelOf model (full.step action).1 reduced := by
  have scopes : (full.step action).1.scopes model = reduced.scopes model := by
    rw [step_defining, Action.definition?_of_definesElsewhere elsewhere]
    exact agrees.scopes
  obtain ⟨other, scope, body, rfl, _⟩ := Action.exists_of_definesElsewhere elsewhere
  have kept (name : String) : (full.step (.defineScope other scope body)).1.known name =
      full.known name := step_known full (.defineScope other scope body) name
  refine ⟨scopes, fun name named => ?_, fun name named other query => ?_⟩
  · rw [kept, agrees.known name named]
  · rw [kept]
    exact agrees.own name named other query

end Agrees

/-! ## Runs -/

variable [DecidableEq ι]

/-- The answers of a run to the actions about a model's scopes. -/
def answersAbout (workspace : Workspace models) (modelOf : String → ι) (model : ι) :
    List (Action ι) → List (Reply α)
  | [] => []
  | action :: rest =>
    let (next, reply) := workspace.step action
    if action.scopesOf? modelOf = some model then reply :: next.answersAbout modelOf model rest
    else next.answersAbout modelOf model rest

theorem Agrees.run (agrees : Agrees modelOf model full reduced) {actions : List (Action ι)}
    (respects : ∀ action ∈ actions, action.Respects modelOf) :
    full.answersAbout modelOf model actions = reduced.answersAbout modelOf model
      (actions.filter fun action => !action.definesElsewhere model) := by
  induction actions generalizing full reduced with
  | nil => rfl
  | cons action rest ih =>
    have later : ∀ action ∈ rest, action.Respects modelOf := fun action member =>
      respects action (List.mem_cons_of_mem _ member)
    cases elsewhere : action.definesElsewhere model with
    | true =>
      rw [List.filter_cons_of_neg (by simp [elsewhere]), answersAbout]
      simp only [if_neg (Action.scopesOf?_of_definesElsewhere elsewhere)]
      exact ih (agrees.skip elsewhere) later
    | false =>
      have next := ih (agrees.step (respects action List.mem_cons_self)) later
      rw [List.filter_cons_of_pos (by simp [elsewhere]), answersAbout, answersAbout]
      simp only [next]
      split
      case isTrue about => rw [agrees.reply about]
      case isFalse => rfl

theorem definitions_filter (actions : List (Action ι)) (model : ι) :
    (actions.filter fun action => !action.definesElsewhere model).filterMap
        (Action.definition? model) =
      actions.filterMap (Action.definition? model) := by
  rw [List.filterMap_filter]
  refine List.filterMap_congr fun action _ => ?_
  cases elsewhere : action.definesElsewhere model with
  | true => exact (Action.definition?_of_definesElsewhere elsewhere).symm
  | false => rfl

/-- Leaving the definitions for other models out of a run makes no difference to a model: it has the
same scopes, and every definition, look-up and use of its scopes is answered alike. A scope that is
not defined for the model itself is unknown to it, whatever is defined for others. -/
theorem run_isolated (models : ι → Model α) (records : List Record) (model : ι)
    (actions : List (Action ι)) :
    let kept := actions.filter fun action => !action.definesElsewhere model
    ((start models records).run actions).1.scopes model =
      ((start models records).run kept).1.scopes model ∧
    (∀ modelOf : String → ι, (∀ action ∈ actions, action.Respects modelOf) →
      (start models records).answersAbout modelOf model actions =
        (start models records).answersAbout modelOf model kept) ∧
    (∀ name, (∀ body, .defineScope model name body ∈ actions →
        ScopeRegistry.fault? name body ≠ none) →
      ∀ args query, (((start models records).run actions).1.scopes model).apply name args query =
        .error (.unknownScope (models model).table name)) := by
  intro kept
  refine ⟨?_, fun modelOf respects => ?_, fun name rejected args query => ?_⟩
  · rw [run_defining, run_defining, definitions_filter]
  · have agrees : Agrees modelOf model (start models records) (start models records) :=
      ⟨rfl, fun name _ => rfl, nofun⟩
    exact agrees.run respects
  · have unknown : (((start models records).run actions).1.scopes model).bodies[name]? = none := by
      rw [run_defining]
      refine ScopeRegistry.unknown_foldl_defining rfl fun body member => ?_
      obtain ⟨action, inside, defines⟩ := List.mem_filterMap.1 member
      exact rejected body (Action.eq_of_definition? defines ▸ inside)
    have table : (((start models records).run actions).1.scopes model).table =
        (models model).table := by
      rw [run_defining, ScopeRegistry.table_foldl_defining]
      rfl
    rw [ScopeRegistry.apply, ScopeRegistry.applyWithin_of_unknown unknown, table]

/-- Two models with one table: what the one defines is unknown to the other. -/
theorem run_isolated_on_one_table :
    let models : Bool → Model Record := fun _ => { table := "Users", ofRecord := .ok }
    let modelOf : String → Bool := fun name => name = "mine"
    let actions : List (Action Bool) := [.defineScope true "open" (.formula "{Open}"),
      .start true "mine" (some (.scope "open")), .defineScope false "open" (.formula " "),
      .start false "theirs" none, .applyScope "theirs" "open" []]
    (start models []).answersAbout modelOf false actions =
      (start models []).answersAbout modelOf false
        [.start true "mine" (some (.scope "open")), .defineScope false "open" (.formula " "),
          .start false "theirs" none, .applyScope "theirs" "open" []] ∧
    (((start models []).run actions).1.scopes false).apply "open" [] .all =
      .error (.unknownScope "Users" "open") := by
  intro models modelOf actions
  obtain ⟨_, answers, unknown⟩ := run_isolated models [] false actions
  refine ⟨answers modelOf ?_, unknown "open" ?_ [] .all⟩
  · simp [actions, modelOf, Action.Respects]
  · intro body defined
    simp [actions] at defined
    subst defined
    decide

end Workspace

end TableQuery
