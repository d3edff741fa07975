import TableQuery.Relation.Concurrent

/-!
# The steps of a concurrent load

`Loading.Moves` lists all that one step of a call can do, each time with what it asks of the state
and with the events that it adds to the history: a fetch that begins, or one that is answered.
Nothing else in the theory of concurrent loads opens `Loading.step`.

The events are not part of the state. `Loading.seen` reads them off the stages of the call before
and after its step, and `Loading.events` collects them along a schedule.
-/

namespace TableQuery

/-! ## Events -/

/-- What happens between the calls and the store. -/
inductive LoadEvent (α : Type) where
  /-- A call begins to fetch. -/
  | began (call : Nat)
  /-- The fetch of a call comes to its end. -/
  | fetched (call : Nat) (answer : Except Error (List α))

namespace LoadEvent

variable {α : Type}

/-- The call that an event belongs to. -/
def call : LoadEvent α → Nat
  | .began call => call
  | .fetched call _ => call

/-- What the store answered, once a fetch comes to its end. -/
def answer? : LoadEvent α → Option (Except Error (List α))
  | .began _ => none
  | .fetched _ answer => some answer

/-- The instances that a fetch has got, if it succeeds. -/
def rows? : LoadEvent α → Option (List α)
  | .fetched _ (.ok rows) => some rows
  | _ => none

end LoadEvent

/-- A bound on the steps that a call still has to take, unless it waits. -/
def LoadStage.remaining {α : Type} : LoadStage α → Nat
  | .check => 6
  | .acquire => 5
  | .recheck => 4
  | .fetching => 3
  | .keep _ => 2
  | .release _ => 1
  | .done _ => 0

/-- The events of a call that comes from one stage to another. -/
def LoadStage.told {α : Type} (call : Nat) : LoadStage α → LoadStage α → List (LoadEvent α)
  | .fetching, .fetching => []
  | .fetching, .keep rows => [.fetched call (.ok rows)]
  | .fetching, .release answer => [.fetched call answer]
  | _, .fetching => [.began call]
  | _, _ => []

namespace Loading

variable {α σ : Type}

/-- The events of a step, from the stages of its call before and after it. -/
def seen (fetch : σ → Except Error (List α) × σ) (state : Loading α σ) (call : Nat) :
    List (LoadEvent α) :=
  match state.stages[call]?, (state.step fetch call).stages[call]? with
  | some before, some after => before.told call after
  | _, _ => []

/-- The events of a run, the oldest first. -/
def events (fetch : σ → Except Error (List α) × σ) (state : Loading α σ) :
    List Nat → List (LoadEvent α)
  | [] => []
  | call :: rest => state.seen fetch call ++ (state.step fetch call).events fetch rest

theorem run_cons (fetch : σ → Except Error (List α) × σ) (state : Loading α σ) (call : Nat)
    (rest : List Nat) : state.run fetch (call :: rest) = (state.step fetch call).run fetch rest :=
  rfl

theorem run_append (fetch : σ → Except Error (List α) × σ) (state : Loading α σ)
    (first second : List Nat) :
    state.run fetch (first ++ second) = (state.run fetch first).run fetch second :=
  List.foldl_append

/-- The events that belong to a call. -/
def eventsOf (call : Nat) (events : List (LoadEvent α)) : List (LoadEvent α) :=
  events.filter (call = ·.call)

theorem eventsOf_cons (call : Nat) (event : LoadEvent α) (events : List (LoadEvent α)) :
    eventsOf call (event :: events) =
      if call = event.call then event :: eventsOf call events else eventsOf call events := by
  simp only [eventsOf, List.filter_cons, decide_eq_true_eq]

theorem eventsOf_append (call : Nat) (events new : List (LoadEvent α)) :
    eventsOf call (events ++ new) = eventsOf call events ++ eventsOf call new :=
  List.filter_append ..

/-! ## Transitions -/

/-- A call that cannot move: there is none, it is done, or it waits for a lock that is held. -/
inductive Idle (state : Loading α σ) (call : Nat) : Prop
  | missing (absent : state.stages[call]? = none)
  | done {answer : Except Error (List α)} (finished : state.stages[call]? = some (.done answer))
  | waiting {other : Nat} (queued : state.stages[call]? = some .acquire)
    (held : state.holder = some other)

/-- The transitions of a call, with their events. -/
inductive Moves (fetch : σ → Except Error (List α) × σ) (state : Loading α σ) (call : Nat) :
    List (LoadEvent α) → Loading α σ → Prop
  | found {rows : List α} (stage : state.stages[call]? = some .check)
    (loaded : state.loaded = some rows) :
    Moves fetch state call [] (state.moved call (.done (.ok rows)))
  | missed (stage : state.stages[call]? = some .check) (empty : state.loaded = none) :
    Moves fetch state call [] (state.moved call .acquire)
  | lock (stage : state.stages[call]? = some .acquire) (free : state.holder = none) :
    Moves fetch state call [] { state.moved call .recheck with holder := some call }
  | foundLate {rows : List α} (stage : state.stages[call]? = some .recheck)
    (loaded : state.loaded = some rows) :
    Moves fetch state call [] (state.moved call (.release (.ok rows)))
  | begin (stage : state.stages[call]? = some .recheck) (empty : state.loaded = none) :
    Moves fetch state call [.began call] (state.moved call .fetching)
  | succeed {rows : List α} {store : σ} (stage : state.stages[call]? = some .fetching)
    (answer : fetch state.store = (.ok rows, store)) :
    Moves fetch state call [.fetched call (.ok rows)] { state.moved call (.keep rows) with store }
  | fail {e : Error} {store : σ} (stage : state.stages[call]? = some .fetching)
    (answer : fetch state.store = (.error e, store)) :
    Moves fetch state call [.fetched call (.error e)]
      { state.moved call (.release (.error e)) with store }
  | keep {rows : List α} (stage : state.stages[call]? = some (.keep rows)) :
    Moves fetch state call []
      { state.moved call (.release (.ok rows)) with loaded := state.loaded <|> some rows }
  | unlock {answer : Except Error (List α)}
    (stage : state.stages[call]? = some (.release answer)) :
    Moves fetch state call [] { state.moved call (.done answer) with holder := none }

/-- The stage of a call after it has moved. -/
theorem moved_self {state : Loading α σ} {call : Nat} {before : LoadStage α}
    (present : state.stages[call]? = some before) (stage : LoadStage α) :
    (state.moved call stage).stages[call]? = some stage := by
  have inRange := (List.getElem?_eq_some_iff.1 present).1
  simp [moved, inRange]

/-- The other calls stay where they are. -/
theorem moved_other {state : Loading α σ} {call other : Nat} (distinct : other ≠ call)
    (stage : LoadStage α) : (state.moved call stage).stages[other]? = state.stages[other]? := by
  simp [moved, distinct.symm]

theorem moves_of_step {fetch : σ → Except Error (List α) × σ} {state next : Loading α σ}
    {call : Nat} {before after : LoadStage α} {events : List (LoadEvent α)}
    (moves : Moves fetch state call events next) (stage : state.stages[call]? = some before)
    (reached : next.stages[call]? = some after) (told : before.told call after = events)
    (stepped : state.step fetch call = next) :
    Moves fetch state call (state.seen fetch call) (state.step fetch call) := by
  have seen : state.seen fetch call = events := by
    rw [← told, Loading.seen, stepped, stage, reached]
  rw [seen, stepped]
  exact moves

theorem seen_of_idle {fetch : σ → Except Error (List α) × σ} {state : Loading α σ} {call : Nat}
    (idle : state.Idle call) (same : state.step fetch call = state) :
    state.seen fetch call = [] := by
  cases idle with
  | missing absent => simp only [seen, same, absent]
  | done finished => simp only [seen, same, finished, LoadStage.told]
  | waiting queued held => simp only [seen, same, queued, LoadStage.told]

/-- A transition takes its own call on, and no other one. -/
theorem Moves.advances {fetch : σ → Except Error (List α) × σ} {state next : Loading α σ}
    {call : Nat} {events : List (LoadEvent α)} (moves : Moves fetch state call events next) :
    ∃ before after, state.stages[call]? = some before ∧
      next.stages = (state.moved call after).stages ∧ after.remaining < before.remaining := by
  cases moves with
  | found stage | missed stage | lock stage | foundLate stage | begin stage | succeed stage
  | fail stage | keep stage | unlock stage =>
    refine ⟨_, _, stage, rfl, ?_⟩
    simp [LoadStage.remaining]

/-- A step changes nothing at all, or it is one of the transitions. -/
theorem idle_or_moves (fetch : σ → Except Error (List α) × σ) (state : Loading α σ) (call : Nat) :
    (state.Idle call ∧ state.step fetch call = state) ∨
      Moves fetch state call (state.seen fetch call) (state.step fetch call) := by
  cases stage : state.stages[call]? with
  | none => exact .inl ⟨.missing stage, by rw [step, stage]⟩
  | some before =>
    have after := moved_self stage
    cases before with
    | check =>
      refine .inr ?_
      cases loaded : state.loaded with
      | some rows =>
        refine moves_of_step (.found stage loaded) stage (after (.done (.ok rows))) rfl ?_
        simp only [step, stage, loaded]
      | none =>
        refine moves_of_step (.missed stage loaded) stage (after .acquire) rfl ?_
        simp only [step, stage, loaded]
    | acquire =>
      cases holder : state.holder with
      | some other =>
        refine .inl ⟨.waiting stage holder, ?_⟩
        simp only [step, stage, holder]
      | none =>
        refine .inr (moves_of_step (.lock stage holder) stage (after .recheck) rfl ?_)
        simp only [step, stage, holder]
    | recheck =>
      refine .inr ?_
      cases loaded : state.loaded with
      | some rows =>
        refine moves_of_step (.foundLate stage loaded) stage (after (.release (.ok rows))) rfl ?_
        simp only [step, stage, loaded]
      | none =>
        refine moves_of_step (.begin stage loaded) stage (after .fetching) rfl ?_
        simp only [step, stage, loaded]
    | fetching =>
      refine .inr ?_
      rcases answer : fetch state.store with ⟨outcome, store⟩
      cases outcome with
      | ok rows =>
        refine moves_of_step (.succeed stage answer) stage (after (.keep rows)) rfl ?_
        simp only [step, stage, answer]
      | error e =>
        refine moves_of_step (.fail stage answer) stage (after (.release (.error e))) rfl ?_
        simp only [step, stage, answer]
    | keep rows =>
      refine .inr (moves_of_step (.keep stage) stage (after (.release (.ok rows))) rfl ?_)
      simp only [step, stage]
    | release answer =>
      refine .inr (moves_of_step (.unlock stage) stage (after (.done answer)) rfl ?_)
      simp only [step, stage]
    | done answer =>
      refine .inl ⟨.done stage, ?_⟩
      simp only [step, stage]

end Loading

end TableQuery
