import Mathlib.Logic.Relation
import TableQuery.Proofs.Query.Refinement

/-!
# Scopes inlined

A scope stands for the refinements and failures that are left when every other scope in it has been
replaced by its body. `ScopeRegistry.Inlined` is that replacement, and `Query.perform` takes the
primitives that it comes to. Where no scope leads back to itself, applying a scope is taking its
primitives, and so what it does is the same for every relation: it always fails with the error of
the first primitive that is one, or it always adds the same refinements.
`ScopeRegistry.chain_inlined` says so.

Applications only reach the scopes that are not running already, so the induction goes over
registries with ever fewer scopes; they agree with the whole one on everything that can still be
reached.
-/

namespace TableQuery

/-! ## Primitives -/

/-- What is left of a step that uses no scope: a refinement, or the error that it gives up with. -/
abbrev Primitive := Except Error Refinement

/-- Takes primitives one after the other, up to the first that fails. -/
def Query.perform (query : Query) (primitives : List Primitive) : Except Error Query :=
  primitives.foldlM (fun query primitive => primitive.map (·.refine query)) query

namespace Query

theorem perform_append (query : Query) (first second : List Primitive) :
    query.perform (first ++ second) = query.perform first >>= (·.perform second) := by
  simp only [perform, List.foldlM_append]

/-- What primitives do is the same for every query. -/
theorem perform_cases (primitives : List Primitive) :
    (∃ (before : List Refinement) (e : Error) (after : List Primitive),
      primitives = before.map .ok ++ .error e :: after ∧
      ∀ query : Query, query.perform primitives = .error e) ∨
    ∃ refinements : List Refinement, primitives = refinements.map .ok ∧
      ∀ query : Query, query.perform primitives = .ok (query.refined refinements) := by
  induction primitives with
  | nil => exact .inr ⟨[], rfl, fun query => by rw [refined_nil]; rfl⟩
  | cons first rest ih =>
    cases first with
    | error e => exact .inl ⟨[], e, rest, rfl, fun query => rfl⟩
    | ok first =>
      have next (query : Query) :
          query.perform (.ok first :: rest) = (first.refine query).perform rest := rfl
      rcases ih with ⟨before, e, after, rfl, fails⟩ | ⟨refinements, rfl, refines⟩
      · exact .inl ⟨first :: before, e, after, rfl, fun query => (next query).trans (fails _)⟩
      · refine .inr ⟨first :: refinements, rfl, fun query => ?_⟩
        rw [next, refines, refined_cons]

end Query

/-! ## Steps with their arguments -/

/-- A step with the arguments of its scope filled in. -/
inductive Instruction where
  | own (primitive : Primitive)
  /-- Another scope with its arguments. -/
  | call (name : String) (args : List Value)

def Instruction.perform (scope : String → List Value → Query → Except Error Query) :
    Instruction → Query → Except Error Query
  | .own primitive, query => primitive.map (·.refine query)
  | .call name args, query => scope name args query

namespace QueryStep

/-- What a step comes to with arguments: without the argument that it needs it changes nothing. -/
def instruction (args : List Value) : QueryStep → Instruction
  | .filter given => .own (.ok (.filter given))
  | .order key => .own (.ok (.order key))
  | .orderBy keys => .own (.ok (.orderBy keys))
  | .limit n => .own (.ok (.limit n))
  | .offset n => .own (.ok (.offset n))
  | .copy => .own (.ok .copy)
  | .scope name => .call name []
  | .scopeWith name args => .call name args
  | .filterByArg field position =>
    match args[position]? with
    | some value => .own (.ok (.filter (.ofConditions (.ofList [(field, .ofValue value)]))))
    | none => .own (.ok .copy)
  | .limitByArg =>
    match argLimit? args with
    | some n => .own (.ok (.limit n))
    | none => .own (.ok .copy)
  | .passArgs name => .call name args
  | .fail message => .own (.error (.custom message))

/-- The scope that a step uses. -/
def scope? : QueryStep → Option String
  | .scope name | .scopeWith name _ | .passArgs name => some name
  | _ => none

variable {scope : String → List Value → Query → Except Error Query} {args : List Value}

theorem perform_eq (step : QueryStep) (query : Query) :
    step.perform scope args query = (step.instruction args).perform scope query := by
  cases step with
  | filterByArg field position =>
    rw [perform, instruction]
    cases args[position]? <;> rfl
  | limitByArg =>
    rw [perform, instruction]
    cases argLimit? args <;> rfl
  | _ => rfl

theorem performAll_eq (steps : List QueryStep) (query : Query) :
    performAll scope args steps query = (steps.map (instruction args)).foldlM
      (fun query instruction => instruction.perform scope query) query := by
  simp only [performAll, List.foldlM_map, perform_eq]

theorem scope?_of_call {step : QueryStep} {name : String} {passed : List Value}
    (call : step.instruction args = .call name passed) : step.scope? = some name := by
  cases step with
  | scope | scopeWith | passArgs => cases call; rfl
  | filterByArg | limitByArg =>
    rw [instruction] at call
    split at call <;> cases call
  | _ => cases call

/-- A step gives up only with the words that it holds. -/
theorem eq_fail_of_error {step : QueryStep} {e : Error}
    (fails : step.instruction args = .own (.error e)) :
    ∃ message, step = .fail message ∧ e = .custom message := by
  cases step with
  | fail message => cases fails; exact ⟨message, rfl, rfl⟩
  | filterByArg | limitByArg =>
    rw [instruction] at fails
    split at fails <;> cases fails
  | _ => cases fails

end QueryStep

/-- The steps of a body with the arguments that reach them. -/
def ScopeBody.instructions (body : ScopeBody) (args : List Value) : List Instruction :=
  body.toSteps.map (QueryStep.instruction (body.passed args))

/-! ## Inlining -/

namespace ScopeRegistry

/-- The scope's body uses the other scope. -/
def Uses (registry : ScopeRegistry) (caller callee : String) : Prop :=
  ∃ body, registry.bodies[caller]? = some body ∧
    callee ∈ body.toSteps.filterMap QueryStep.scope?

/-- No scope leads back to itself. -/
def Acyclic (registry : ScopeRegistry) : Prop :=
  ∀ name, ¬Relation.TransGen registry.Uses name name

/-- The primitives that are left of instructions when every scope has been replaced by its body,
and every scope that is not defined by the error that says so. -/
inductive Inlined (registry : ScopeRegistry) : List Instruction → List Primitive → Prop
  | nil : Inlined registry [] []
  | own {primitive : Primitive} {rest : List Instruction} {flat : List Primitive} :
    Inlined registry rest flat → Inlined registry (.own primitive :: rest) (primitive :: flat)
  | unknown {name : String} {args : List Value} {rest : List Instruction}
      {flat : List Primitive} :
    registry.bodies[name]? = none → Inlined registry rest flat →
    Inlined registry (.call name args :: rest)
      (.error (.unknownScope registry.table name) :: flat)
  | call {name : String} {args : List Value} {body : ScopeBody} {rest : List Instruction}
      {inner flat : List Primitive} :
    registry.bodies[name]? = some body → Inlined registry (body.instructions args) inner →
    Inlined registry rest flat → Inlined registry (.call name args :: rest) (inner ++ flat)

variable {registry : ScopeRegistry} {instructions : List Instruction} {flat other : List Primitive}

theorem Inlined.unique (first : registry.Inlined instructions flat)
    (second : registry.Inlined instructions other) : flat = other := by
  induction first generalizing other with
  | nil => cases second; rfl
  | own _ ih =>
    cases second with
    | own rest => rw [ih rest]
  | unknown missing _ ih =>
    cases second with
    | unknown _ rest => rw [ih rest]
    | call found _ _ => rw [missing] at found; cases found
  | call found _ _ ihInner ih =>
    cases second with
    | unknown missing _ => rw [missing] at found; cases found
    | call again inner rest =>
      rw [found] at again
      cases again
      rw [ihInner inner, ih rest]

theorem Inlined.append {more : List Instruction} (first : registry.Inlined instructions flat)
    (second : registry.Inlined more other) :
    registry.Inlined (instructions ++ more) (flat ++ other) := by
  induction first with
  | nil => exact second
  | own _ ih => exact .own ih
  | unknown missing _ ih => exact .unknown missing ih
  | call found inner _ _ ih => exact List.append_assoc .. ▸ .call found inner ih

/-- Where an error can come from: a scope that is not defined, or a step that gives up. -/
inductive Explains (registry : ScopeRegistry) : Error → Prop
  | unknown {name : String} :
    registry.bodies[name]? = none → Explains registry (.unknownScope registry.table name)
  | given {owner message : String} {body : ScopeBody} :
    registry.bodies[owner]? = some body → .fail message ∈ body.toSteps →
    Explains registry (.custom message)

theorem Inlined.explains (inlined : registry.Inlined instructions flat)
    (own : ∀ e, .own (.error e) ∈ instructions → registry.Explains e) {e : Error}
    (fails : .error e ∈ flat) : registry.Explains e := by
  induction inlined with
  | nil => cases fails
  | own _ ih =>
    rcases List.mem_cons.1 fails with rfl | later
    · exact own e List.mem_cons_self
    · exact ih (fun e member => own e (List.mem_cons_of_mem _ member)) later
  | unknown missing _ ih =>
    rcases List.mem_cons.1 fails with same | later
    · cases same
      exact .unknown missing
    · exact ih (fun e member => own e (List.mem_cons_of_mem _ member)) later
  | @call name _ body _ _ _ found _ _ ihInner ih =>
    rcases List.mem_append.1 fails with inside | later
    · refine ihInner (fun e member => ?_) inside
      obtain ⟨step, taken, same⟩ := List.mem_map.1 member
      obtain ⟨message, rfl, rfl⟩ := QueryStep.eq_fail_of_error same
      exact .given found taken
    · exact ih (fun e member => own e (List.mem_cons_of_mem _ member)) later

/-! ## Application -/

/-- The registry has all the scopes that the named one leads to in the other. -/
def Covers (part whole : ScopeRegistry) (name : String) : Prop :=
  part.table = whole.table ∧ ∀ other, Relation.ReflTransGen whole.Uses name other →
    part.bodies[other]? = whole.bodies[other]?

variable {part whole : ScopeRegistry} {name caller callee : String}

theorem getElem?_without (registry : ScopeRegistry) (name other : String) :
    (registry.without name).bodies[other]? =
      if name = other then none else registry.bodies[other]? := by
  refine Std.TreeMap.getElem?_erase.trans ?_
  simp only [Std.compare_eq_iff_eq]

/-- A scope that runs is not needed any more by those that it uses, if none leads back to it. -/
theorem Covers.without (covers : part.Covers whole caller)
    (onward : ¬Relation.TransGen whole.Uses caller caller) (uses : whole.Uses caller callee) :
    (part.without caller).Covers whole callee := by
  refine ⟨covers.1, fun other reached => ?_⟩
  have distinct : caller ≠ other := by
    rintro rfl
    exact onward (.head' uses reached)
  rw [getElem?_without, if_neg distinct, covers.2 other (.head uses reached)]

/-- Instructions are taken as their primitives are, if the scopes that they call are. -/
theorem exists_inlined_of_calls {scope : String → List Value → Query → Except Error Query}
    (instructions : List Instruction)
    (calls : ∀ name args, .call name args ∈ instructions → ∃ flat,
      registry.Inlined [.call name args] flat ∧
        ∀ query, scope name args query = query.perform flat) :
    ∃ flat, registry.Inlined instructions flat ∧ ∀ query, instructions.foldlM
      (fun query instruction => instruction.perform scope query) query = query.perform flat := by
  induction instructions with
  | nil => exact ⟨[], .nil, fun query => rfl⟩
  | cons first rest ih =>
    obtain ⟨flat, inlined, performs⟩ := ih fun name args member =>
      calls name args (List.mem_cons_of_mem _ member)
    cases first with
    | own primitive =>
      refine ⟨primitive :: flat, .own inlined, fun query => ?_⟩
      rw [List.foldlM_cons, Query.perform, List.foldlM_cons]
      exact bind_congr performs
    | call name args =>
      obtain ⟨inner, called, applies⟩ := calls name args List.mem_cons_self
      refine ⟨inner ++ flat, called.append inlined, fun query => ?_⟩
      rw [List.foldlM_cons, Query.perform_append, Instruction.perform, applies]
      exact bind_congr performs

theorem exists_inlined_of_covers {depth : Nat} (acyclic : whole.Acyclic)
    (enough : part.size ≤ depth) (covers : part.Covers whole name) (args : List Value) :
    ∃ flat, whole.Inlined [.call name args] flat ∧
      ∀ query, applyWithin depth part name args query = query.perform flat := by
  have same : part.bodies[name]? = whole.bodies[name]? := covers.2 name .refl
  induction depth generalizing part name args with
  | zero =>
    have missing := getElem?_of_size_eq_zero (Nat.le_zero.1 enough) name
    refine ⟨_, .unknown (same ▸ missing) .nil, fun query => ?_⟩
    rw [applyWithin_of_unknown missing, covers.1]
    rfl
  | succ depth ih =>
    cases found : part.bodies[name]? with
    | none =>
      refine ⟨_, .unknown (same ▸ found) .nil, fun query => ?_⟩
      rw [applyWithin_of_unknown found, covers.1]
      rfl
    | some body =>
      have defined : whole.bodies[name]? = some body := same ▸ found
      -- The body runs without the scope itself, which nothing that it uses leads back to.
      have smaller : (part.without name).size ≤ depth := by
        rw [size_without found]
        omega
      have calls (callee : String) (passed : List Value)
          (member : .call callee passed ∈ body.instructions args) :
          ∃ flat, whole.Inlined [.call callee passed] flat ∧ ∀ query,
            applyWithin depth (part.without name) callee passed query = query.perform flat := by
        obtain ⟨step, taken, call⟩ := List.mem_map.1 member
        have uses : whole.Uses name callee :=
          ⟨body, defined, List.mem_filterMap.2 ⟨step, taken, QueryStep.scope?_of_call call⟩⟩
        have covered := covers.without (acyclic name) uses
        exact ih smaller covered passed (covered.2 callee .refl)
      obtain ⟨flat, inlined, performs⟩ := exists_inlined_of_calls (body.instructions args) calls
      refine ⟨flat ++ [], .call defined inlined .nil, fun query => ?_⟩
      rw [List.append_nil, applyWithin, found]
      exact (QueryStep.performAll_eq body.toSteps query).trans (performs query)

theorem chain_scopeWith {α : Type} {model : Model α} (relation : Relation model)
    (registry : ScopeRegistry) (name : String) (args : List Value) :
    relation.chain registry [.scopeWith name args] =
      (registry.apply name args relation.query).map .ofQuery := by
  rw [Relation.chain, QueryStep.performAll, List.foldlM_cons]
  simp only [List.foldlM_nil, bind_pure]
  rfl

/-- Where no scope leads back to itself, a scope with arguments comes to one list of primitives, in
which every scope is replaced by its body, and applying it to a relation is taking these primitives.
So what comes of it is the same for every relation: it always fails with the first error among the
primitives, or it always adds the same conditions and sort keys and sets the same limit and offset,
as far as there are any. -/
theorem chain_inlined (acyclic : registry.Acyclic) (name : String) (args : List Value) :
    ∃ flat : List Primitive,
      (∀ other, registry.Inlined [.call name args] other ↔ other = flat) ∧
      (∀ {α : Type} {model : Model α} (relation : Relation model),
        relation.chain registry [.scopeWith name args] =
          (relation.query.perform flat).map .ofQuery) ∧
      ((∃ (before : List Refinement) (e : Error) (after : List Primitive),
          flat = before.map .ok ++ .error e :: after ∧ registry.Explains e ∧
          ∀ {α : Type} {model : Model α} (relation : Relation model),
            relation.chain registry [.scopeWith name args] = .error e) ∨
        ∃ refinements : List Refinement, flat = refinements.map .ok ∧
          ∀ {α : Type} {model : Model α} (relation : Relation model),
            relation.chain registry [.scopeWith name args] =
              .ok (.ofQuery (relation.query.refined refinements))) := by
  have whole : registry.Covers registry name := ⟨rfl, fun _ _ => rfl⟩
  obtain ⟨flat, inlined, applies⟩ := exists_inlined_of_covers acyclic (Nat.le_refl _) whole args
  have chained {α : Type} {model : Model α} (relation : Relation model) :
      relation.chain registry [.scopeWith name args] =
        (relation.query.perform flat).map .ofQuery := by
    rw [chain_scopeWith, apply, applies]
  refine ⟨flat, fun other => ⟨fun also => also.unique inlined, fun same => same ▸ inlined⟩,
    chained, ?_⟩
  rcases Query.perform_cases flat with ⟨before, e, after, same, fails⟩ | ⟨refinements, same, refines⟩
  · have inside : .error e ∈ flat := by
      rw [same]
      exact List.mem_append_right _ List.mem_cons_self
    refine .inl ⟨before, e, after, same, inlined.explains (by simp) inside, fun relation => ?_⟩
    rw [chained, fails]
    rfl
  · refine .inr ⟨refinements, same, fun relation => ?_⟩
    rw [chained, refines]
    rfl

/-- Scopes whose uses descend in a rank do not lead back to themselves. -/
theorem acyclic_of_rank (rank : String → Nat)
    (descends : ∀ caller callee, registry.Uses caller callee → rank callee < rank caller) :
    registry.Acyclic := by
  intro name circle
  have lower {first last : String} (leads : Relation.TransGen registry.Uses first last) :
      rank last < rank first := by
    induction leads with
    | single uses => exact descends _ _ uses
    | tail _ uses ih => exact Nat.lt_trans (descends _ _ uses) ih
  exact Nat.lt_irrefl _ (lower circle)

/-- Arguments reach the scopes that they are passed to, and no others. -/
theorem chain_inlined_of_front_page :
    let registry : ScopeRegistry :=
      { table := "Posts"
        bodies := (((∅ : Std.TreeMap String ScopeBody).insert
            "top" (.withArgs [.limitByArg])).insert
            "recent" (.steps [.order (.desc "created")])).insert
            "front_page" (.withArgs
              [.scope "recent", .passArgs "top", .filter (.raw "{Open}"), .scope "top"]) }
    let model : Model Record := { table := "Posts", ofRecord := .ok }
    registry.Acyclic ∧
      (Relation.all : Relation model).chain registry [.scopeWith "front_page" [.int 3]] =
        .ok (.ofQuery
          { conditions := [.raw "{Open}"], order := [.desc "created"], limit := some 3 }) := by
  intro registry model
  have acyclic : registry.Acyclic := by
    refine acyclic_of_rank (fun name => if name = "front_page" then 1 else 0) ?_
    rintro caller callee ⟨body, found, uses⟩
    simp only [registry, Std.TreeMap.getElem?_insert, Std.compare_eq_iff_eq] at found
    split_ifs at found with front recent top <;> cases found
    · simp only [ScopeBody.toSteps, List.filterMap, QueryStep.scope?, List.mem_cons,
        List.not_mem_nil, or_false] at uses
      rcases uses with rfl | rfl | rfl <;> simp [← front]
    · cases uses
    · cases uses
  refine ⟨acyclic, ?_⟩
  obtain ⟨flat, only, chained, _⟩ := chain_inlined acyclic "front_page" [.int 3]
  have recent : registry.Inlined (ScopeBody.instructions (.steps [.order (.desc "created")]) [])
      [.ok (.order (.desc "created"))] := .own .nil
  have top : registry.Inlined (ScopeBody.instructions (.withArgs [.limitByArg]) [.int 3])
      [.ok (.limit 3)] := .own .nil
  have topAlone : registry.Inlined (ScopeBody.instructions (.withArgs [.limitByArg]) [])
      [.ok .copy] := .own .nil
  have frontPage : registry.Inlined (ScopeBody.instructions (.withArgs
        [.scope "recent", .passArgs "top", .filter (.raw "{Open}"), .scope "top"]) [.int 3])
      [.ok (.order (.desc "created")), .ok (.limit 3), .ok (.filter (.raw "{Open}")), .ok .copy] :=
    .call rfl recent (.call rfl top (.own (.call rfl topAlone .nil)))
  have inlined : registry.Inlined [.call "front_page" [.int 3]] _ := .call rfl frontPage .nil
  rw [chained, ← (only _).1 inlined]
  rfl

end ScopeRegistry

end TableQuery
