import TableQuery.Inspect
import TableQuery.Relation.Concurrent
import TableQuery.Store.Canned

/-!
# Workspaces

A workspace is where queries are worked on: some models with a scope registry each, relations under
names, and one store that all of them fetch from. An `Action` changes the workspace or looks at it,
`Workspace.step` gives the workspace after an action with its `Reply`, and `Workspace.run` takes a
list of actions. An action that fails leaves the scopes and the named relations as they were.
-/

namespace TableQuery

/-- The operations that fetch. -/
inductive Terminal where
  | load
  | each
  | count
  | first
  | last
  | firstN (n : UInt64)
  | lastN (n : UInt64)
  | findFirst (given : Filter)
  | findRequired (given : Filter)

/-- What a terminal operation finds. -/
inductive Found (α : Type) where
  | rows (rows : List α)
  /-- The instances in the order in which they were passed on. -/
  | visited (rows : List α)
  | count (n : Nat)
  | atMostOne (row : Option α)
  | one (row : α)

/-- What an action works on: a relation by its name, or every record of a model. -/
inductive Subject (ι : Type) where
  | named (name : String)
  | model (model : ι)

inductive Action (ι : Type) where
  /-- Names a new relation of a model, refined by one step if one is given. -/
  | start (model : ι) (target : String) (refinement : Option QueryStep)
  /-- Names a refinement of a relation. -/
  | chain (source target : String) (steps : List QueryStep)
  | state (source : String)
  | compile (source : String)
  | toJson (source : String)
  | inspect (source : String)
  | defineScope (model : ι) (name : String) (body : ScopeBody)
  | scopes (model : ι)
  | containsScope (model : ι) (name : String)
  /-- Shows what a scope makes of a relation. -/
  | applyScope (source name : String) (args : List Value)
  | terminal (subject : Subject ι) (operation : Terminal)
  | loadConcurrently (source : String) (calls : Nat)
  | loadTwice (source : String)
  | setRecords (records : List Record)
  | failWith (fault : StoreFault) (text : String)
  | recover
  | calls
  | tableOf (model : ι)
  /-- Asks the store without a query. -/
  | fetch (table : TableRef) (params : FetchParams)

inductive Reply (α : Type) where
  | state (query : Query) (loaded : Bool)
  | failure (e : Error)
  | params (params : FetchParams)
  | text (text : String)
  /-- The action took effect and has nothing to tell. -/
  | done
  | scopes (registry : ScopeRegistry)
  | truth (b : Bool)
  /-- What was found, whether the relation is loaded now, and the store's log. -/
  | found (result : Except Error (Found α)) (loaded : Option Bool) (log : List FetchCall)
  | answers (results : List (Except Error (List α))) (log : List FetchCall)
  /-- The second load answered from what the first one had loaded. -/
  | shared (same : Bool) (log : List FetchCall)
  | log (log : List FetchCall)
  | table (table : TableRef)
  | records (result : Except Error (List Record)) (log : List FetchCall)
  /-- There is no relation of that name. -/
  | unnamed (name : String)

/-- A relation of one of the models. -/
structure NamedRelation {ι α : Type} (models : ι → Model α) where
  model : ι
  relation : Relation (models model)

/-- Models with their scopes, named relations, and a store. -/
structure Workspace {ι α : Type} (models : ι → Model α) where
  scopes : ι → ScopeRegistry
  relations : Std.TreeMap String (NamedRelation models)
  store : CannedStore

/-! ## Terminal operations -/

namespace Terminal

variable {α σ : Type} {model : Model α} [Store σ]

/-- Performs the operation on a relation. Only loads change what the relation holds. -/
def perform (operation : Terminal) (relation : Relation model) (store : σ) :
    Except Error (Found α) × Relation model × σ :=
  match operation with
  | .load =>
    let (result, relation, store) := relation.load store
    (result.map .rows, relation, store)
  | .each =>
    let ((result, visited), relation, store) :=
      relation.each (fun rows row => row :: rows) [] store
    (result.map fun _ => .visited visited.reverse, relation, store)
  | .count =>
    let (result, relation, store) := relation.count store
    (result.map .count, relation, store)
  | .first =>
    let (result, store) := relation.query.first model store
    (result.map .atMostOne, relation, store)
  | .last =>
    let (result, store) := relation.query.last model store
    (result.map .atMostOne, relation, store)
  | .firstN n =>
    let (result, store) := relation.query.firstN model n store
    (result.map .rows, relation, store)
  | .lastN n =>
    let (result, store) := relation.query.lastN model n store
    (result.map .rows, relation, store)
  | .findFirst given =>
    let (result, store) := relation.query.findFirst model given store
    (result.map .atMostOne, relation, store)
  | .findRequired given =>
    let (result, store) := relation.query.findRequired model given store
    (result.map .one, relation, store)

end Terminal

namespace Workspace

variable {ι α : Type} [DecidableEq ι] {models : ι → Model α}

/-- The workspace without scopes and relations, and with a store of the given records. -/
def start (models : ι → Model α) (records : List Record) : Workspace models :=
  { scopes := fun model => .empty (models model).table
    relations := ∅
    store := .ofRecords records }

/-- The workspace with a relation under a name. -/
def name (workspace : Workspace models) (target : String) (model : ι)
    (relation : Relation (models model)) : Workspace models :=
  { workspace with relations := workspace.relations.insert target ⟨model, relation⟩ }

/-- The workspace with other scopes for one model. -/
def setScopes (workspace : Workspace models) (model : ι) (registry : ScopeRegistry) :
    Workspace models :=
  { workspace with
    scopes := fun other => if other = model then registry else workspace.scopes other }

/-! ## Actions -/

/-- Names what the steps make of a relation. -/
def refine (workspace : Workspace models) (target : String) (model : ι)
    (relation : Relation (models model)) (steps : List QueryStep) :
    Workspace models × Reply α :=
  match relation.chain (workspace.scopes model) steps with
  | .ok next => (workspace.name target model next, .state next.query next.isLoaded)
  | .error e => (workspace, .failure e)

/-- Performs a terminal operation on a named relation. -/
def performNamed (workspace : Workspace models) (source : String) (held : NamedRelation models)
    (operation : Terminal) : Workspace models × Reply α :=
  let (result, relation, store) := operation.perform held.relation workspace.store
  ({ workspace.name source held.model relation with store },
    .found result (some relation.isLoaded) store.calls)

/-- Performs a terminal operation on every record of a model. -/
def performAll (workspace : Workspace models) (model : ι) (operation : Terminal) :
    Workspace models × Reply α :=
  let all : Relation (models model) := .all
  let (result, _, store) := operation.perform all workspace.store
  ({ workspace with store }, .found result none store.calls)

/-- Loads a named relation in so many calls at a time. -/
def loadConcurrently (workspace : Workspace models) (source : String)
    (held : NamedRelation models) (calls : Nat) : Workspace models × Reply α :=
  let (results, relation, store) := held.relation.loadConcurrently calls workspace.store
  ({ workspace.name source held.model relation with store }, .answers results store.calls)

/-- Loads a named relation twice. The instances are shared if the second load did not fetch. -/
def loadTwice (workspace : Workspace models) (source : String) (held : NamedRelation models) :
    Workspace models × Reply α :=
  let (first, relation, store) := held.relation.load workspace.store
  let (second, relation, after) := relation.load store
  let next := { workspace.name source held.model relation with store := after }
  match first, second with
  | .error e, _ => (next, .failure e)
  | _, .error e => (next, .failure e)
  | .ok _, .ok _ => (next, .shared (after.calls.length == store.calls.length) after.calls)

/-- Performs an action on a named relation, if there is one. -/
def withNamed (workspace : Workspace models) (source : String)
    (perform : NamedRelation models → Workspace models × Reply α) : Workspace models × Reply α :=
  match workspace.relations[source]? with
  | some held => perform held
  | none => (workspace, .unnamed source)

/-- The workspace after an action, and what the action tells. -/
def step (workspace : Workspace models) : Action ι → Workspace models × Reply α
  | .start model target refinement =>
    workspace.refine target model .all refinement.toList
  | .chain source target steps => workspace.withNamed source fun held =>
    workspace.refine target held.model held.relation steps
  | .state source => workspace.withNamed source fun held =>
    (workspace, .state held.relation.query held.relation.isLoaded)
  | .compile source => workspace.withNamed source fun held =>
    match held.relation.compile with
    | .ok params => (workspace, .params params)
    | .error e => (workspace, .failure e)
  | .toJson source => workspace.withNamed source fun held =>
    match held.relation.toJson with
    | .ok text => (workspace, .text text)
    | .error e => (workspace, .failure e)
  | .inspect source => workspace.withNamed source fun held =>
    (workspace, .text held.relation.inspect)
  | .defineScope model name body =>
    match (workspace.scopes model).define name body with
    | .ok registry => (workspace.setScopes model registry, .done)
    | .error e => (workspace, .failure e)
  | .scopes model => (workspace, .scopes (workspace.scopes model))
  | .containsScope model name => (workspace, .truth ((workspace.scopes model).contains name))
  | .applyScope source name args => workspace.withNamed source fun held =>
    match (workspace.scopes held.model).apply name args held.relation.query with
    | .ok query => (workspace, .state query false)
    | .error e => (workspace, .failure e)
  | .terminal (.named source) operation => workspace.withNamed source fun held =>
    workspace.performNamed source held operation
  | .terminal (.model model) operation => workspace.performAll model operation
  | .loadConcurrently source calls => workspace.withNamed source fun held =>
    workspace.loadConcurrently source held calls
  | .loadTwice source => workspace.withNamed source fun held => workspace.loadTwice source held
  | .setRecords records =>
    ({ workspace with store := workspace.store.setRecords records }, .done)
  | .failWith fault text =>
    ({ workspace with store := workspace.store.failWith fault text }, .done)
  | .recover => ({ workspace with store := workspace.store.recover }, .done)
  | .calls => (workspace, .log workspace.store.calls)
  | .tableOf model => (workspace, .table (models model).tableRef)
  | .fetch table params =>
    let (result, store) := Store.fetch table params workspace.store
    ({ workspace with store }, .records result store.calls)

/-- The workspace after a list of actions, and the replies in their order. -/
def run (workspace : Workspace models) : List (Action ι) → Workspace models × List (Reply α)
  | [] => (workspace, [])
  | action :: rest =>
    let (next, reply) := workspace.step action
    let (final, replies) := next.run rest
    (final, reply :: replies)

end Workspace

end TableQuery
