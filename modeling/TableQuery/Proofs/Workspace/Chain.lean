import TableQuery.Proofs.Condition.Trivial
import TableQuery.Proofs.Query.Fetching
import TableQuery.Proofs.Query.Refinement
import TableQuery.Proofs.Workspace.Step

/-!
# Chains of refinements

A relation that is refined from every record of a model, call after call, is told by four things,
each of them read off the calls on its own: the conditions of the filters that restrict anything,
the sort keys, the last limit and the last offset. How the calls of one kind stand among those of
the others makes no difference, and neither does it whether the first call is made on the model or
on the relation of all its records. `Workspace.chain_by_parts` says so.
-/

namespace TableQuery

/-! ## Sort entries -/

theorem OrderBy.eq_of_compile {mapping : FieldMapping} {key : OrderBy} {entry : SortField}
    (compiles : key.compile mapping = .ok entry) :
    entry = ⟨mapping.resolve key.field, key.direction⟩ := by
  unfold OrderBy.compile at compiles
  split at compiles
  · cases compiles
  · dsimp only at compiles
    split at compiles
    · cases compiles
    · exact (Except.ok.inj compiles).symm

/-- A query that compiles is sorted by the columns of its keys, one for one. -/
theorem Query.sort_of_compile {query : Query} {mapping : FieldMapping} {params : FetchParams}
    (compiles : query.compile mapping = .ok params) : params.sort =
      query.order.map fun key => ⟨mapping.resolve key.field, key.direction⟩ := by
  obtain ⟨_, sorted, _⟩ := compile_eq_ok.1 compiles
  exact eq_map_of_mapM (fun _ _ => OrderBy.eq_of_compile) sorted

/-! ## Calls on relations -/

variable {α : Type} {model : Model α}

/-- The call of a relation that makes the refinement. -/
def Refinement.call : Refinement → Relation model → Relation model
  | .filter given, relation => relation.filter given
  | .order key, relation => relation.order key
  | .orderBy keys, relation => relation.orderBy keys
  | .limit n, relation => relation.limit n
  | .offset n, relation => relation.offset n
  | .copy, relation => relation.spawn

theorem Refinement.call_eq (refinement : Refinement) (relation : Relation model) :
    refinement.call relation = .ofQuery (refinement.refine relation.query) := by
  cases refinement <;> rfl

/-- The relation after one call for each of the refinements. -/
def Relation.refined (relation : Relation model) (calls : List Refinement) : Relation model :=
  calls.foldl (fun relation call => call.call relation) relation

theorem Relation.refined_ofQuery (query : Query) (calls : List Refinement) :
    (ofQuery query : Relation model).refined calls = .ofQuery (query.refined calls) := by
  induction calls generalizing query with
  | nil => rw [Query.refined_nil]; rfl
  | cons first rest ih =>
    rw [Query.refined_cons, ← ih, Relation.refined, List.foldl_cons, Refinement.call_eq]
    rfl

/-- The parts of a relation that is refined from every record. -/
theorem Relation.refined_all (calls : List Refinement) :
    (all : Relation model).refined calls = .ofQuery
      { conditions := calls.filterMap Refinement.condition?
        order := calls.flatMap Refinement.keys
        limit := (calls.filterMap Refinement.limit?).getLast?
        offset := (calls.filterMap Refinement.offset?).getLast? } := by
  refine (refined_ofQuery .all calls).trans ?_
  simp [Query.refined, Query.all]

theorem Query.refined_append (query : Query) (first second : List Refinement) :
    query.refined (first ++ second) = (query.refined first).refined second := by
  rw [← foldl_refine, List.foldl_append, foldl_refine, foldl_refine]

/-! ## Chains in a workspace -/

theorem QueryStep.performAll_refinements
    (scope : String → List Value → Query → Except Error Query) (args : List Value)
    (refinements : List Refinement) (query : Query) :
    performAll scope args (refinements.map Refinement.toStep) query =
      .ok (query.refined refinements) := by
  induction refinements generalizing query with
  | nil => rw [Query.refined_nil]; rfl
  | cons first rest ih =>
    rw [Query.refined_cons, ← ih, performAll, List.map_cons, List.foldlM_cons,
      Refinement.perform_toStep]
    rfl

namespace Workspace

variable {ι : Type} {models : ι → Model α} {workspace : Workspace models}

theorem refine_refinements (target : String) (m : ι) (relation : Relation (models m))
    (refinements : List Refinement) :
    workspace.refine target m relation (refinements.map Refinement.toStep) =
      (workspace.name target m (.ofQuery (relation.query.refined refinements)),
        .state (relation.query.refined refinements) false) := by
  rw [refine, Relation.chain, QueryStep.performAll_refinements]
  rfl

variable [DecidableEq ι]

/-- The refinements of a chain add up, however it is cut into pieces. -/
theorem run_pieces {target : String} {m : ι} {query : Query}
    (bound : workspace.relations[target]? = some ⟨m, .ofQuery query⟩)
    (pieces : List (List Refinement)) :
    (workspace.run (pieces.map fun piece =>
        .chain target target (piece.map Refinement.toStep))).1.relations[target]? =
      some ⟨m, .ofQuery (query.refined pieces.flatten)⟩ := by
  induction pieces generalizing workspace query with
  | nil => rw [List.flatten_nil, Query.refined_nil]; exact bound
  | cons first rest ih =>
    have stepped : workspace.step (.chain target target (first.map Refinement.toStep)) =
        workspace.refine target m (.ofQuery query) (first.map Refinement.toStep) :=
      withNamed_some bound
    have next : (workspace.step (.chain target target
        (first.map Refinement.toStep))).1.relations[target]? =
          some ⟨m, .ofQuery (query.refined first)⟩ := by
      rw [stepped, refine_refinements, relations_name, if_pos rfl]
      rfl
    rw [List.flatten_cons, Query.refined_append]
    exact ih next

/-- The first call may be made on the model itself. -/
theorem run_chain (workspace : Workspace models) (target : String) (m : ι)
    (first : Option Refinement) (pieces : List (List Refinement)) :
    (workspace.run (.start m target (first.map Refinement.toStep) :: pieces.map fun piece =>
        .chain target target (piece.map Refinement.toStep))).1.relations[target]? =
      some ⟨m, Relation.all.refined (first.toList ++ pieces.flatten)⟩ := by
  have started : (workspace.step (.start m target
      (first.map Refinement.toStep))).1.relations[target]? =
        some ⟨m, .ofQuery (Query.all.refined first.toList)⟩ := by
    have steps : (first.map Refinement.toStep).toList = first.toList.map Refinement.toStep := by
      cases first <;> rfl
    rw [step, steps, refine_refinements, relations_name, if_pos rfl]
    rfl
  have whole : (Relation.all : Relation (models m)).refined (first.toList ++ pieces.flatten) =
      .ofQuery ((Query.all.refined first.toList).refined pieces.flatten) := by
    rw [← Query.refined_append]
    exact Relation.refined_ofQuery .all _
  rw [whole]
  exact run_pieces started pieces

/-- What a chain of calls makes of every record of a model. The conditions are those of the filters
that restrict anything, one for each: a formula, unless it is blank; what the criterion of a single
attribute stands for; the conjunction of what several criteria stand for, in their order; and a
condition, unless it is trivial, which it is if no text is ever left of it. Sort keys add up in the
order of the calls, and of limits and offsets the last one counts. It is the same whether the first
call is made on the model or on the relation of all its records, and however the chain is cut into
pieces. So two chains with the same parts make the same relation, with the same parameters or the
same error. Parameters sort by the column of every key, in the direction of the key. -/
theorem chain_by_parts (models : ι → Model α) (m : ι) (calls : List Refinement) :
    let relation := (Relation.all : Relation (models m)).refined calls
    relation = .ofQuery
      { conditions := calls.filterMap Refinement.condition?
        order := calls.flatMap Refinement.keys
        limit := (calls.filterMap Refinement.limit?).getLast?
        offset := (calls.filterMap Refinement.offset?).getLast? } ∧
    (∀ formula, (Filter.raw formula).condition? =
      if Text.isBlank formula then none else some (.raw formula)) ∧
    (∀ entries, (Filter.ofConditions (.ofList entries)).condition? = none ↔ entries = []) ∧
    (∀ field criterion, (Filter.ofConditions (.ofList [(field, criterion)])).condition? =
      some (.ofCriterion field criterion)) ∧
    (∀ entries, 1 < entries.length → (Filter.ofConditions (.ofList entries)).condition? =
      some (.and (entries.map fun entry => .ofCriterion entry.1 entry.2))) ∧
    (∀ condition, (Filter.ofCondition condition).condition? =
      if condition.isTrivial then none else some condition) ∧
    (∀ condition : Condition, condition.isTrivial = true ↔
      ∀ mapping, Formula.filterText mapping [condition] = .ok none) ∧
    (∀ (workspace : Workspace models) (target : String) (first : Option Refinement)
      (pieces : List (List Refinement)), first.toList ++ pieces.flatten = calls →
      (workspace.run (.start m target (first.map Refinement.toStep) :: pieces.map fun piece =>
        .chain target target (piece.map Refinement.toStep))).1.relations[target]? =
          some ⟨m, relation⟩) ∧
    (∀ others : List Refinement,
      others.filterMap Refinement.condition? = calls.filterMap Refinement.condition? →
      others.flatMap Refinement.keys = calls.flatMap Refinement.keys →
      (others.filterMap Refinement.limit?).getLast? =
        (calls.filterMap Refinement.limit?).getLast? →
      (others.filterMap Refinement.offset?).getLast? =
        (calls.filterMap Refinement.offset?).getLast? →
      (Relation.all : Relation (models m)).refined others = relation ∧
        ((Relation.all : Relation (models m)).refined others).compile = relation.compile) ∧
    (∀ params, relation.compile = .ok params →
      params.sort = (calls.flatMap Refinement.keys).map fun key =>
        ⟨(models m).mapping.resolve key.field, key.direction⟩) := by
  intro relation
  have parts : relation = .ofQuery _ := Relation.refined_all calls
  refine ⟨parts, Filter.condition?_raw, fun _ => Filter.condition?_ofList_eq_none_iff,
    Filter.condition?_ofList_singleton, fun _ => Filter.condition?_ofList_of_several,
    Filter.condition?_ofCondition, fun _ => Formula.isTrivial_iff_filterText, ?_, ?_, ?_⟩
  · rintro workspace target first pieces rfl
    exact workspace.run_chain target m first pieces
  · intro others conditions keys limit offset
    have same : (Relation.all : Relation (models m)).refined others = relation := by
      rw [Relation.refined_all, conditions, keys, limit, offset]
      exact parts.symm
    exact ⟨same, congrArg Relation.compile same⟩
  · intro params compiles
    rw [parts] at compiles
    exact Query.sort_of_compile compiles

/-- Calls of different kinds may change places, filters that restrict nothing may be left out, and
keys may be given one at a time. -/
theorem chain_by_parts_of_interleaved :
    let model : Model Record :=
      { table := "Users", mapping := .ofList [⟨"age", "Age", false, .other⟩], ofRecord := .ok }
    let adult := Filter.ofConditions (.ofList [("age", .range (.int 18) (.int 65))])
    let staff := Filter.ofConditions
      (.ofList [("active", .value (.bool true)), ("role", .oneOf [.text "admin", .text "cook"])])
    let anyone := Filter.ofConditions (.ofList [])
    let named := Filter.ofCondition (.equals "name" (.text "Ann"))
    let always := Filter.ofCondition (.and [.raw " ", .and []])
    let apart : List Refinement := [.limit 9, .filter (.raw " "), .filter adult,
      .order (.asc "name"), .filter anyone, .copy, .filter staff, .offset 2, .order (.desc "age"),
      .filter always, .limit 5, .filter named, .filter (.raw "{Age} > 18")]
    let together : List Refinement := [.filter adult, .filter staff, .filter named,
      .filter (.raw "{Age} > 18"), .orderBy [.asc "name", .desc "age"], .limit 5, .offset 2]
    let restrictions : List Condition := [.range "age" (.int 18) (.int 65),
      .and [.equals "active" (.bool true), .oneOf "role" [.text "admin", .text "cook"]],
      .equals "name" (.text "Ann"), .raw "{Age} > 18"]
    let relation := (Relation.all : Relation model).refined together
    (Relation.all : Relation model).refined apart = relation ∧
      relation.query.conditions = restrictions ∧
      ∃ params, relation.compile = .ok params ∧ params.sort = [⟨"name", .asc⟩, ⟨"Age", .desc⟩] := by
  intro model adult staff anyone named always apart together restrictions relation
  obtain ⟨parts, raw, unset, single, several, whole, _, _, same, sorted⟩ :=
    chain_by_parts (fun _ : Unit => model) () together
  have ofBlank : (Filter.raw " ").condition? = none := (raw " ").trans (if_pos rfl)
  have ofAdult : adult.condition? = some (.range "age" (.int 18) (.int 65)) := single "age" _
  have ofAnyone : anyone.condition? = none := (unset []).2 rfl
  have ofStaff : staff.condition? = some (.and [.equals "active" (.bool true),
      .oneOf "role" [.text "admin", .text "cook"]]) := several _ (by decide)
  have ofAlways : always.condition? = none := (whole _).trans (if_pos rfl)
  have ofNamed : named.condition? = some (.equals "name" (.text "Ann")) :=
    (whole _).trans (if_neg Bool.false_ne_true)
  have ofFormula : (Filter.raw "{Age} > 18").condition? = some (.raw "{Age} > 18") :=
    (raw _).trans (if_neg Bool.false_ne_true)
  have conditions : together.filterMap Refinement.condition? = restrictions := by
    simp only [together, restrictions, List.filterMap, Refinement.condition?, ofAdult, ofStaff,
      ofNamed, ofFormula]
  have others : apart.filterMap Refinement.condition? =
      together.filterMap Refinement.condition? := by
    rw [conditions]
    simp only [apart, restrictions, List.filterMap, Refinement.condition?, ofBlank, ofAdult,
      ofAnyone, ofStaff, ofAlways, ofNamed, ofFormula]
  have compiles : relation.compile = .ok
      { filter := some ("AND(AND({Age} >= 18, {Age} < 65), AND({active} = TRUE(), " ++
          "OR({role} = 'admin', {role} = 'cook')), {name} = 'Ann', {Age} > 18)")
        sort := [⟨"name", .asc⟩, ⟨"Age", .desc⟩]
        maxRecords := some 5
        offset := some 2 } := by decide +kernel
  refine ⟨(same apart others rfl rfl rfl).1, ?_, _, compiles, sorted _ compiles⟩
  exact (congrArg (fun relation => relation.query.conditions) parts).trans conditions

end Workspace

end TableQuery
