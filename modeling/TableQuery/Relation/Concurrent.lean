import TableQuery.Relation.Basic

/-!
# Concurrent loads

Several calls may load one relation at the same time. A call first looks for loaded instances. If
there are none it waits for the lock, looks again, since another call may have loaded them
meanwhile, and only then fetches, keeps what it got, and gives the lock back. `Loading` is the state
that the calls share with the stage of each of them, and `Loading.step` lets one call take its next
step. The stages between `recheck` and `release` belong to the call that holds the lock.
-/

namespace TableQuery

/-- How far a call has come. -/
inductive LoadStage (α : Type) where
  /-- About to look for loaded instances. -/
  | check
  /-- Waiting for the lock. -/
  | acquire
  /-- About to look again. -/
  | recheck
  /-- Fetching. -/
  | fetching
  /-- About to keep the fetched instances. -/
  | keep (rows : List α)
  /-- About to give the lock back. -/
  | release (answer : Except Error (List α))
  | done (answer : Except Error (List α))

/-- The answer of a call that has come to its end. -/
def LoadStage.answer? {α : Type} : LoadStage α → Option (Except Error (List α))
  | .done answer => some answer
  | _ => none

/-- Calls on their way, by position, and what they share. -/
structure Loading (α σ : Type) where
  loaded : Option (List α)
  /-- The call that holds the lock. -/
  holder : Option Nat
  stages : List (LoadStage α)
  store : σ

namespace Loading

variable {α σ : Type}

/-- So many calls at their beginning. -/
def start (loaded : Option (List α)) (store : σ) (calls : Nat) : Loading α σ :=
  { loaded, holder := none, stages := List.replicate calls .check, store }

/-- The state with one call at another stage. -/
def moved (state : Loading α σ) (call : Nat) (stage : LoadStage α) : Loading α σ :=
  { state with stages := state.stages.set call stage }

/-- The next step of a call. A call that waits for a lock which another one holds stays where it is,
and so does one that is done. Instances that are kept already are never replaced. -/
def step (fetch : σ → Except Error (List α) × σ) (state : Loading α σ) (call : Nat) :
    Loading α σ :=
  match state.stages[call]? with
  | none => state
  | some .check =>
    match state.loaded with
    | some rows => state.moved call (.done (.ok rows))
    | none => state.moved call .acquire
  | some .acquire =>
    match state.holder with
    | some _ => state
    | none => { state.moved call .recheck with holder := some call }
  | some .recheck =>
    match state.loaded with
    | some rows => state.moved call (.release (.ok rows))
    | none => state.moved call .fetching
  | some .fetching =>
    match fetch state.store with
    | (.ok rows, store) => { state.moved call (.keep rows) with store }
    | (.error e, store) => { state.moved call (.release (.error e)) with store }
  | some (.keep rows) =>
    { state.moved call (.release (.ok rows)) with loaded := state.loaded <|> some rows }
  | some (.release answer) => { state.moved call (.done answer) with holder := none }
  | some (.done _) => state

/-- The steps of the calls in the order of a schedule. -/
def run (fetch : σ → Except Error (List α) × σ) (state : Loading α σ) (schedule : List Nat) :
    Loading α σ :=
  schedule.foldl (step fetch) state

/-- Every call in turn, over and over. In each round the call with the lock takes a step, and it
needs five of them with the lock, so all calls are done at the end. -/
def rounds (calls : Nat) : List Nat := (List.replicate (6 * calls) (List.range calls)).flatten

/-- The answers of the calls that are done. -/
def answers (state : Loading α σ) : List (Except Error (List α)) :=
  state.stages.filterMap LoadStage.answer?

end Loading

/-- So many loads of a relation at the same time, the calls taking turns. -/
def Relation.loadConcurrently {α σ : Type} {model : Model α} [Store σ] (relation : Relation model)
    (calls : Nat) (store : σ) : List (Except Error (List α)) × Relation model × σ :=
  let final := (Loading.start relation.loaded store calls).run (relation.query.fetch model)
    (Loading.rounds calls)
  (final.answers, { relation with loaded := final.loaded }, final.store)

end TableQuery
