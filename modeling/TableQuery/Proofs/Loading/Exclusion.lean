import Mathlib.Data.List.Infix
import Mathlib.Logic.Function.Iterate
import TableQuery.Proofs.Loading.Step

/-!
# Exclusion among concurrent loads

Calls that load one relation at the same time share one fetch, in whatever order they move and
whatever the store answers. Two invariants carry this.

* `Loading.Consistent` ties the stage of every call to the lock and to the kept instances.
* `Loading.Accounts` ties the state to its history: the stage of a call says which events it has
  behind it, what is known is what the relation held at first or the one successful fetch has got,
  and the store was asked once for every answer.

Both hold at the start, and every transition preserves them.
-/

namespace TableQuery

/-- What the stage of a call says about the lock and the kept instances. -/
def LoadStage.Fits {α : Type} (holds : Prop) (loaded : Option (List α)) : LoadStage α → Prop
  | .check | .acquire => ¬holds
  | .recheck => holds
  | .fetching | .keep _ => holds ∧ loaded = none
  | .release answer => holds ∧ ∀ rows, answer = .ok rows → loaded = some rows
  | .done answer => ¬holds ∧ ∀ rows, answer = .ok rows → loaded = some rows

/-- The events that a call has behind it. Without a fetch of its own it can only have found what
another call has kept. -/
def LoadStage.Recounts {α : Type} (call : Nat) (own : List (LoadEvent α)) : LoadStage α → Prop
  | .check | .acquire | .recheck => own = []
  | .fetching => own = [.began call]
  | .keep rows => own = [.began call, .fetched call (.ok rows)]
  | .release answer | .done answer =>
    own = [.began call, .fetched call answer] ∨ own = [] ∧ ∃ rows, answer = .ok rows

/-- The instances that a call has got and not kept yet. -/
def LoadStage.arrived? {α : Type} : LoadStage α → Option (List α)
  | .keep rows => some rows
  | _ => none

namespace Loading

variable {α σ : Type} {fetch : σ → Except Error (List α) × σ} {state next : Loading α σ}
  {call other : Nat} {stage : LoadStage α} {new events : List (LoadEvent α)}

/-! ## The lock -/

/-- The stage of every call fits, and the lock is held by one of the calls, if at all. -/
structure Consistent (state : Loading α σ) : Prop where
  fits : ∀ (call : Nat) (stage : LoadStage α), state.stages[call]? = some stage →
    stage.Fits (state.holder = some call) state.loaded
  present : ∀ call, state.holder = some call → ∃ stage, state.stages[call]? = some stage

theorem Consistent.start (loaded : Option (List α)) (store : σ) (calls : Nat) :
    (Loading.start loaded store calls).Consistent := by
  constructor
  · intro call stage at_
    have first := List.eq_of_mem_replicate (List.mem_of_getElem? at_)
    rw [first]
    exact nofun
  · exact nofun

/-- Whatever a call without the lock says stays true as long as it does not get the lock. -/
theorem fits_of_bystander {loaded kept : Option (List α)} {holds holds' : Prop}
    (fits : stage.Fits holds loaded) (lock : holds' ↔ holds)
    (keeps : kept = loaded ∨ loaded = none ∧ ¬holds) : stage.Fits holds' kept := by
  rcases keeps with rfl | ⟨rfl, free⟩
  · rw [show holds' = holds from propext lock]
    exact fits
  · cases stage with
    | check | acquire => exact fun held => free (lock.1 held)
    | recheck => exact absurd fits free
    | fetching | keep => exact absurd fits.1 free
    | release => exact absurd fits.1 free
    | done answer =>
      refine ⟨fun held => free (lock.1 held), fun rows same => ?_⟩
      cases fits.2 rows same

/-- A call that moves touches no more than the lock that it asks for or holds. -/
theorem Consistent.of_moved (consistent : state.Consistent)
    {before : LoadStage α} (at_ : state.stages[call]? = some before)
    (stages : next.stages = (state.moved call stage).stages)
    (lock : ∀ other, other ≠ call → (next.holder = some other ↔ state.holder = some other))
    (keeps : next.loaded = state.loaded ∨ state.loaded = none ∧ state.holder = some call)
    (fits : stage.Fits (next.holder = some call) next.loaded) : next.Consistent := by
  have here : next.stages[call]? = some stage := by rw [stages, moved_self at_]
  constructor
  · intro other found at_other
    by_cases same : other = call
    · rw [same, here] at at_other
      cases at_other
      rw [same]
      exact fits
    · rw [stages, moved_other same] at at_other
      have before := consistent.fits other found at_other
      apply fits_of_bystander before (lock other same)
      rcases keeps with untouched | ⟨empty, held⟩
      · exact .inl untouched
      · refine .inr ⟨empty, fun holds => same ?_⟩
        exact Option.some.inj (holds.symm.trans held)
  · intro other held
    by_cases same : other = call
    · rw [same]
      exact ⟨stage, here⟩
    · rw [stages, moved_other same]
      exact consistent.present other ((lock other same).1 held)

theorem Consistent.moves (consistent : state.Consistent)
    (moves : Moves fetch state call new next) : next.Consistent := by
  cases moves with
  | found at_ loaded =>
    have waits := consistent.fits call _ at_
    refine consistent.of_moved at_ rfl (fun _ _ => Iff.rfl) (.inl rfl) ⟨waits, ?_⟩
    rintro rows ⟨⟩
    exact loaded
  | missed at_ _ =>
    have waits := consistent.fits call _ at_
    exact consistent.of_moved at_ rfl (fun _ _ => Iff.rfl) (.inl rfl) waits
  | lock at_ free =>
    refine consistent.of_moved at_ rfl (fun other distinct => ?_) (.inl rfl) rfl
    rw [free]
    exact ⟨fun held => absurd (Option.some.inj held).symm distinct, nofun⟩
  | foundLate at_ loaded =>
    have held := consistent.fits call _ at_
    refine consistent.of_moved at_ rfl (fun _ _ => Iff.rfl) (.inl rfl) ⟨held, ?_⟩
    rintro rows ⟨⟩
    exact loaded
  | begin at_ empty =>
    have held := consistent.fits call _ at_
    exact consistent.of_moved at_ rfl (fun _ _ => Iff.rfl) (.inl rfl) ⟨held, empty⟩
  | succeed at_ _ =>
    have held := consistent.fits call _ at_
    exact consistent.of_moved at_ rfl (fun _ _ => Iff.rfl) (.inl rfl) held
  | fail at_ _ =>
    have held := consistent.fits call _ at_
    exact consistent.of_moved at_ rfl (fun _ _ => Iff.rfl) (.inl rfl) ⟨held.1, nofun⟩
  | keep at_ =>
    rcases consistent.fits call _ at_ with ⟨held, empty⟩
    refine consistent.of_moved at_ rfl (fun _ _ => Iff.rfl) (.inr ⟨empty, held⟩) ⟨held, ?_⟩
    rintro rows ⟨⟩
    rw [empty]
    rfl
  | unlock at_ =>
    rcases consistent.fits call _ at_ with ⟨held, kept⟩
    refine consistent.of_moved at_ rfl (fun other distinct => ?_) (.inl rfl) ⟨nofun, kept⟩
    rw [held]
    exact ⟨nofun, fun same => absurd (Option.some.inj same).symm distinct⟩

/-- No two calls fetch at the same time. -/
theorem Consistent.exclusive (consistent : state.Consistent)
    (first : state.stages[call]? = some .fetching)
    (second : state.stages[other]? = some .fetching) : call = other := by
  have held := (consistent.fits call _ first).1
  have also := (consistent.fits other _ second).1
  exact Option.some.inj (held.symm.trans also)

/-- While instances are kept, nobody fetches and nothing replaces them. -/
theorem Consistent.silent (consistent : state.Consistent) {rows : List α}
    (loaded : state.loaded = some rows) (moves : Moves fetch state call new next) :
    next.loaded = some rows ∧ new = [] := by
  cases moves with
  | found | foundLate => exact ⟨loaded, rfl⟩
  | lock | unlock => exact ⟨loaded, rfl⟩
  | missed _ empty | begin _ empty => cases loaded.symm.trans empty
  | succeed at_ | fail at_ | keep at_ =>
    have empty := (consistent.fits call _ at_).2
    cases loaded.symm.trans empty

theorem Consistent.run_silent (consistent : state.Consistent)
    (fetch : σ → Except Error (List α) × σ) {rows : List α} (loaded : state.loaded = some rows)
    (later : List Nat) :
    (state.run fetch later).loaded = some rows ∧ state.events fetch later = [] := by
  induction later generalizing state with
  | nil => exact ⟨loaded, rfl⟩
  | cons call later ih =>
    rw [run_cons, events]
    rcases idle_or_moves fetch state call with ⟨idle, same⟩ | moves
    · rw [same, seen_of_idle idle same]
      exact ih consistent loaded
    · rcases consistent.silent loaded moves with ⟨stays, none⟩
      rw [none]
      exact ih (consistent.moves moves) stays

/-! ## What is known -/

/-- The kept instances, or those that the call with the lock is about to keep. -/
def known (state : Loading α σ) : Option (List α) :=
  state.loaded <|> (state.holder.bind (state.stages[·]?)).bind LoadStage.arrived?

theorem known_of_loaded {rows : List α} (loaded : state.loaded = some rows) :
    state.known = some rows := by
  rw [known, loaded]
  rfl

theorem known_of_free (free : state.holder = none) : state.known = state.loaded := by
  simp [known, free]

theorem known_of_held (held : state.holder = some call)
    (at_ : state.stages[call]? = some stage) :
    state.known = (state.loaded <|> stage.arrived?) := by
  rw [known, held, Option.bind_some, at_, Option.bind_some]

theorem known_of_moved {before : LoadStage α} (at_ : state.stages[call]? = some before)
    (stages : next.stages = (state.moved call stage).stages) (held : next.holder = some call) :
    next.known = (next.loaded <|> stage.arrived?) :=
  known_of_held held (by rw [stages, moved_self at_])

theorem known_of_bystander (free : state.holder ≠ some call) :
    (state.moved call stage).known = state.known := by
  cases held : state.holder with
  | none =>
    have after : (state.moved call stage).known = state.loaded := known_of_free held
    rw [after, known_of_free held]
  | some other =>
    have distinct : other ≠ call := fun same => free (same ▸ held)
    have lock : (state.moved call stage).holder = some other := held
    simp only [known, lock, held, Option.bind_some, moved_other distinct]
    rfl

theorem known_grows {before after : Option (List α)} (was : state.known = before)
    (is : next.known = after)
    (grows : after.toList = before.toList ++ new.filterMap LoadEvent.rows?) :
    next.known.toList = state.known.toList ++ new.filterMap LoadEvent.rows? := by
  rw [was, is, grows]

/-- Only a fetch that succeeds adds to what is known. -/
theorem known_of_moves (consistent : state.Consistent)
    (moves : Moves fetch state call new next) :
    next.known.toList = state.known.toList ++ new.filterMap LoadEvent.rows? := by
  cases moves with
  | found _ loaded | foundLate _ loaded =>
    exact known_grows (known_of_loaded loaded) (known_of_loaded loaded) (List.append_nil _).symm
  | missed at_ =>
    have waits := consistent.fits call _ at_
    exact known_grows rfl (known_of_bystander waits) (List.append_nil _).symm
  | lock at_ free =>
    refine known_grows (known_of_free free) (known_of_moved at_ rfl rfl) ?_
    simp [moved, LoadStage.arrived?]
  | begin at_ =>
    have held := consistent.fits call _ at_
    refine known_grows (known_of_held held at_) (known_of_moved at_ rfl held) ?_
    simp [moved, LoadStage.arrived?, LoadEvent.rows?]
  | succeed at_ =>
    rcases consistent.fits call _ at_ with ⟨held, empty⟩
    refine known_grows (known_of_held held at_) (known_of_moved at_ rfl held) ?_
    simp [moved, empty, LoadStage.arrived?, LoadEvent.rows?]
  | fail at_ =>
    have held := (consistent.fits call _ at_).1
    refine known_grows (known_of_held held at_) (known_of_moved at_ rfl held) ?_
    simp [moved, LoadStage.arrived?, LoadEvent.rows?]
  | keep at_ =>
    rcases consistent.fits call _ at_ with ⟨held, empty⟩
    refine known_grows (known_of_held held at_) (known_of_moved at_ rfl held) ?_
    simp [empty, LoadStage.arrived?]
  | unlock at_ =>
    have held := (consistent.fits call _ at_).1
    refine known_grows (known_of_held held at_) (known_of_free rfl) ?_
    simp [moved, LoadStage.arrived?]

/-! ## History -/

/-- The store was asked once for every answer, each time in the state that the fetch before had left
it in. -/
inductive Asked (fetch : σ → Except Error (List α) × σ) (store : σ) :
    List (Except Error (List α)) → σ → Prop
  | nil : Asked fetch store [] store
  | snoc {answers : List (Except Error (List α))} {later : σ}
    (asked : Asked fetch store answers later) :
    Asked fetch store (answers ++ [(fetch later).1]) (fetch later).2

/-- The events account for the state, if the relation held `loaded` and the store was `store` at
their beginning. -/
structure Accounts (fetch : σ → Except Error (List α) × σ) (loaded : Option (List α)) (store : σ)
    (events : List (LoadEvent α)) (state : Loading α σ) : Prop where
  consistent : state.Consistent
  recounts : ∀ (call : Nat) (stage : LoadStage α), state.stages[call]? = some stage →
    stage.Recounts call (eventsOf call events)
  strangers : ∀ call, state.stages[call]? = none → eventsOf call events = []
  known : state.known.toList = loaded.toList ++ events.filterMap LoadEvent.rows?
  asked : Asked fetch store (events.filterMap LoadEvent.answer?) state.store

theorem Accounts.start (fetch : σ → Except Error (List α) × σ) (loaded : Option (List α))
    (store : σ) (calls : Nat) : Accounts fetch loaded store [] (.start loaded store calls) where
  consistent := .start loaded store calls
  recounts call stage at_ := by
    rw [List.eq_of_mem_replicate (List.mem_of_getElem? at_)]
    rfl
  strangers _ _ := rfl
  known := by
    rw [known_of_free rfl]
    exact (List.append_nil _).symm
  asked := .nil

/-- The events of a transition belong to the call that moves. -/
theorem eventsOf_moves (moves : Moves fetch state call new next) (other : Nat) :
    eventsOf other new = if other = call then new else [] := by
  have one {event : LoadEvent α} (belongs : event.call = call) :
      eventsOf other [event] = if other = call then [event] else [] := by
    rw [eventsOf_cons, belongs]
    rfl
  cases moves with
  | begin | succeed | fail => exact one rfl
  | _ => exact (ite_self _).symm

/-- The stage that a call comes to recounts what it did on the way. -/
theorem recounts_of_moves (moves : Moves fetch state call new next) {own : List (LoadEvent α)}
    (recounts : ∀ stage, state.stages[call]? = some stage → stage.Recounts call own) :
    ∀ stage, next.stages[call]? = some stage → stage.Recounts call (own ++ new) := by
  have reach {before after : LoadStage α} (at_ : state.stages[call]? = some before)
      (stages : next.stages = (state.moved call after).stages)
      (same : after.Recounts call (own ++ new)) :
      ∀ stage, next.stages[call]? = some stage → stage.Recounts call (own ++ new) := by
    intro stage found
    rw [stages, moved_self at_] at found
    cases found
    exact same
  cases moves with
  | found at_ => exact reach at_ rfl (.inr ⟨by rw [recounts _ at_]; rfl, _, rfl⟩)
  | missed at_ | lock at_ => exact reach at_ rfl (by rw [recounts _ at_]; rfl)
  | foundLate at_ => exact reach at_ rfl (.inr ⟨by rw [recounts _ at_]; rfl, _, rfl⟩)
  | begin at_ => exact reach at_ rfl (by rw [recounts _ at_]; rfl)
  | succeed at_ => exact reach at_ rfl (by rw [recounts _ at_]; rfl)
  | fail at_ => exact reach at_ rfl (.inl (by rw [recounts _ at_]; rfl))
  | keep at_ => exact reach at_ rfl (.inl (by rw [recounts _ at_]; rfl))
  | unlock at_ => exact reach at_ rfl ((List.append_nil own).symm ▸ recounts (.release _) at_)

theorem asked_of_moves {store : σ} {answers : List (Except Error (List α))}
    (moves : Moves fetch state call new next) (asked : Asked fetch store answers state.store) :
    Asked fetch store (answers ++ new.filterMap LoadEvent.answer?) next.store := by
  cases moves with
  | succeed _ answer | fail _ answer =>
    have snoc := asked.snoc
    rw [answer] at snoc
    exact snoc
  | _ => exact (List.append_nil answers).symm ▸ asked

theorem Accounts.moves {loaded : Option (List α)} {store : σ}
    (accounts : Accounts fetch loaded store events state)
    (moves : Moves fetch state call new next) :
    Accounts fetch loaded store (events ++ new) next := by
  rcases moves.advances with ⟨before, after, at_, stages, _⟩
  have elsewhere {other : Nat} (distinct : other ≠ call) :
      next.stages[other]? = state.stages[other]? ∧
        eventsOf other (events ++ new) = eventsOf other events := by
    rw [stages, moved_other distinct, eventsOf_append, eventsOf_moves moves, if_neg distinct]
    exact ⟨rfl, List.append_nil _⟩
  refine ⟨accounts.consistent.moves moves, ?_, ?_, ?_, ?_⟩
  · intro other stage found
    by_cases same : other = call
    · subst same
      rw [eventsOf_append, eventsOf_moves moves, if_pos rfl]
      exact recounts_of_moves moves (accounts.recounts other) stage found
    · rw [(elsewhere same).2]
      exact accounts.recounts other stage ((elsewhere same).1 ▸ found)
  · intro other absent
    by_cases same : other = call
    · rw [same, stages, moved_self at_] at absent
      cases absent
    · rw [(elsewhere same).2]
      exact accounts.strangers other ((elsewhere same).1 ▸ absent)
  · rw [known_of_moves accounts.consistent moves, accounts.known, List.filterMap_append,
      List.append_assoc]
  · rw [List.filterMap_append]
    exact asked_of_moves moves accounts.asked

/-- The events of a run account for the state that it leads to. -/
theorem Accounts.run {loaded : Option (List α)} {store : σ}
    (accounts : Accounts fetch loaded store events state) (schedule : List Nat) :
    Accounts fetch loaded store (events ++ state.events fetch schedule)
      (state.run fetch schedule) := by
  induction schedule generalizing state events with
  | nil => exact (List.append_nil events).symm ▸ accounts
  | cons call schedule ih =>
    rw [run_cons, Loading.events, ← List.append_assoc]
    rcases idle_or_moves fetch state call with ⟨idle, same⟩ | moves
    · rw [same, seen_of_idle idle same, List.append_nil]
      exact ih accounts
    · exact ih (accounts.moves moves)

/-- A call begins to fetch once at most. -/
theorem Accounts.fetches_once {loaded : Option (List α)} {store : σ}
    (accounts : Accounts fetch loaded store events state) (call : Nat) :
    ∃ answer, eventsOf call events <+: [LoadEvent.began call, .fetched call answer] := by
  cases at_ : state.stages[call]? with
  | none => exact ⟨.ok [], accounts.strangers call at_ ▸ List.nil_prefix⟩
  | some stage =>
    have own := accounts.recounts call stage at_
    cases stage with
    | check | acquire | recheck => exact ⟨.ok [], own ▸ List.nil_prefix⟩
    | fetching => exact ⟨.ok [], own ▸ List.prefix_append [LoadEvent.began call] _⟩
    | keep rows => exact ⟨.ok rows, own ▸ List.prefix_rfl⟩
    | release answer | done answer =>
      rcases own with fetched | ⟨shared, _⟩
      · exact ⟨answer, fetched ▸ List.prefix_rfl⟩
      · exact ⟨answer, shared ▸ List.nil_prefix⟩

end Loading

end TableQuery
