import TableQuery.Query

/-!
# Relations

A relation is a query of a model together with the instances it has loaded, if it has. Refining a
relation gives a new one that has loaded nothing. `load` fetches once: a loaded relation answers
from what it holds, whatever has become of the store, and a fetch that fails leaves it as it was.
The operations on one end of a query and on single records never touch what is loaded.
-/

namespace TableQuery

/-- A query of a model with its loaded instances. -/
structure Relation {α : Type} (model : Model α) where
  query : Query
  loaded : Option (List α) := none

namespace Relation

variable {α σ : Type} {model : Model α} [Store σ]

/-- The relation of a query; nothing is loaded yet. -/
def ofQuery (query : Query) : Relation model := { query }

/-- Every record of the model's table. -/
def all : Relation model := ofQuery .all

def isLoaded (relation : Relation model) : Bool := relation.loaded.isSome

/-! ## Refinement -/

/-- The same query, with nothing loaded. -/
def spawn (relation : Relation model) : Relation model := ofQuery relation.query

def filter (relation : Relation model) (filter : Filter) : Relation model :=
  ofQuery (relation.query.addFilter filter)

def order (relation : Relation model) (key : OrderBy) : Relation model :=
  ofQuery (relation.query.addOrder [key])

def orderBy (relation : Relation model) (keys : List OrderBy) : Relation model :=
  ofQuery (relation.query.addOrder keys)

def limit (relation : Relation model) (n : UInt64) : Relation model :=
  ofQuery (relation.query.setLimit n)

def offset (relation : Relation model) (n : UInt64) : Relation model :=
  ofQuery (relation.query.setOffset n)

/-! ## Compilation -/

/-- The parameters that the relation fetches with. -/
def compile (relation : Relation model) : Except Error FetchParams :=
  relation.query.compile model.mapping

/-- The JSON text of those parameters. -/
def toJson (relation : Relation model) : Except Error String :=
  relation.compile.map FetchParams.render

/-! ## Loading -/

/-- All instances of the relation: those it holds, or those of a fetch, which it then holds. -/
def load (relation : Relation model) (store : σ) : Except Error (List α) × Relation model × σ :=
  match relation.loaded with
  | some rows => (.ok rows, relation, store)
  | none =>
    match relation.query.fetch model store with
    | (.ok rows, store) => (.ok rows, { relation with loaded := some rows }, store)
    | (.error e, store) => (.error e, relation, store)

/-- A loaded relation never asks the store. -/
theorem load_of_loaded {relation : Relation model} {rows : List α}
    (loaded : relation.loaded = some rows) (store : σ) :
    relation.load store = (.ok rows, relation, store) := by
  rw [load, loaded]

/-- Passes every instance to `visit` in turn, once all are loaded. What the visits have made of
`start` comes with the result, also when there was nothing to visit. -/
def each {β : Type} (relation : Relation model) (visit : β → α → β) (start : β) (store : σ) :
    (Except Error Unit × β) × Relation model × σ :=
  match relation.load store with
  | (.ok rows, relation, store) => ((.ok (), rows.foldl visit start), relation, store)
  | (.error e, relation, store) => ((.error e, start), relation, store)

/-- Visits leave the relation and the store as the load has left them. -/
theorem each_state {β : Type} (relation : Relation model) (visit : β → α → β) (start : β)
    (store : σ) : (relation.each visit start store).2 = (relation.load store).2 := by
  unfold each
  rcases relation.load store with ⟨_ | _, _, _⟩ <;> rfl

/-- A load that fails leaves nothing to visit. -/
theorem each_of_error {β : Type} {relation after : Relation model} {store left : σ} {e : Error}
    (fails : relation.load store = (.error e, after, left)) (visit : β → α → β) (start : β) :
    relation.each visit start store = ((.error e, start), after, left) := by
  rw [each, fails]

theorem each_of_ok {β : Type} {relation after : Relation model} {store left : σ} {rows : List α}
    (loads : relation.load store = (.ok rows, after, left)) (visit : β → α → β) (start : β) :
    relation.each visit start store = ((.ok (), rows.foldl visit start), after, left) := by
  rw [each, loads]

/-- The number of instances. -/
def count (relation : Relation model) (store : σ) : Except Error Nat × Relation model × σ :=
  let (rows, relation, store) := relation.load store
  (rows.map List.length, relation, store)

end Relation

end TableQuery
