import TableQuery.Proofs.Outcome
import TableQuery.Scope

/-!
# Refinements

A refinement is a step of a chain that needs neither scopes nor arguments; it never fails. What a
list of refinements makes of a query is told by four lists, each read off the refinements on its
own: the conditions that they add, their sort keys, their limits and their offsets. Of limits and
offsets only the last counts. `Query.refined` says so, and `foldl_refine` that the refinements,
taken one after the other, come to just that.
-/

namespace TableQuery

/-- A step of a chain that needs neither scopes nor arguments. -/
inductive Refinement where
  | filter (given : Filter)
  | order (key : OrderBy)
  | orderBy (keys : List OrderBy)
  | limit (n : UInt64)
  | offset (n : UInt64)
  /-- No change. -/
  | copy

namespace Refinement

def refine : Refinement → Query → Query
  | .filter given, query => query.addFilter given
  | .order key, query => query.addOrder [key]
  | .orderBy keys, query => query.addOrder keys
  | .limit n, query => query.setLimit n
  | .offset n, query => query.setOffset n
  | .copy, query => query

/-- The refinement as a step of a chain. -/
def toStep : Refinement → QueryStep
  | .filter given => .filter given
  | .order key => .order key
  | .orderBy keys => .orderBy keys
  | .limit n => .limit n
  | .offset n => .offset n
  | .copy => .copy

theorem perform_toStep (refinement : Refinement)
    (scope : String → List Value → Query → Except Error Query) (args : List Value) (query : Query) :
    refinement.toStep.perform scope args query = .ok (refinement.refine query) := by
  cases refinement <;> rfl

/-! ## Parts -/

/-- The condition that the refinement adds, if it is a filter that restricts anything. -/
def condition? : Refinement → Option Condition
  | .filter given => given.condition?
  | _ => none

/-- The sort keys that the refinement adds. -/
def keys : Refinement → List OrderBy
  | .order key => [key]
  | .orderBy keys => keys
  | _ => []

def limit? : Refinement → Option UInt64
  | .limit n => some n
  | _ => none

def offset? : Refinement → Option UInt64
  | .offset n => some n
  | _ => none

/-- A refinement adds its condition and its keys, and puts its limit and its offset in the place of
those of the query. -/
theorem refine_eq (refinement : Refinement) (query : Query) : refinement.refine query =
    { conditions := query.conditions ++ refinement.condition?.toList
      order := query.order ++ refinement.keys
      limit := refinement.limit?.or query.limit
      offset := refinement.offset?.or query.offset } := by
  cases refinement with
  | filter given =>
    simp only [refine, condition?, keys, limit?, offset?]
    cases contributes : given.condition? with
    | none => simp [Query.addFilter_of_none contributes]
    | some condition => simp [Query.addFilter_of_some contributes]
  | order | orderBy | limit | offset | copy =>
    simp [refine, Query.addOrder, Query.setLimit, Query.setOffset, condition?, keys, limit?,
      offset?]

end Refinement

/-! ## Lists of refinements -/

/-- The query with the conditions and the sort keys of all the refinements at the end, and with the
last limit and the last offset among them, if there is one. -/
def Query.refined (query : Query) (refinements : List Refinement) : Query where
  conditions := query.conditions ++ refinements.filterMap Refinement.condition?
  order := query.order ++ refinements.flatMap Refinement.keys
  limit := (refinements.filterMap Refinement.limit?).getLast?.or query.limit
  offset := (refinements.filterMap Refinement.offset?).getLast?.or query.offset

namespace Query

theorem refined_nil (query : Query) : query.refined [] = query := by
  simp [refined]

theorem filterMap_cons_eq_append {α β : Type} (f : α → Option β) (first : α) (rest : List α) :
    (first :: rest).filterMap f = (f first).toList ++ rest.filterMap f := by
  cases here : f first <;> simp [here]

theorem refined_cons (query : Query) (first : Refinement) (rest : List Refinement) :
    query.refined (first :: rest) = (first.refine query).refined rest := by
  have last {β : Type} (only : Option β) : only.toList.getLast? = only := by
    cases only <;> rfl
  simp only [refined, Refinement.refine_eq, filterMap_cons_eq_append, List.getLast?_append,
    List.flatMap_cons, List.append_assoc, last, Option.or_assoc]

/-- Refinements taken one after the other. -/
theorem foldl_refine (query : Query) (refinements : List Refinement) :
    refinements.foldl (fun query refinement => refinement.refine query) query =
      query.refined refinements := by
  induction refinements generalizing query with
  | nil => exact query.refined_nil.symm
  | cons first rest ih => rw [List.foldl_cons, ih, refined_cons]

end Query

end TableQuery
