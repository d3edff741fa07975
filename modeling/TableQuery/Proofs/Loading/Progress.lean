import TableQuery.Proofs.Loading.Exclusion

/-!
# Progress of concurrent loads

Every transition brings a call nearer to its end, and unless all calls are done one of them can
move. So calls that take turns for long enough all come to their end. The last section puts this
together with the invariants into what concurrent loads promise.
-/

namespace TableQuery

namespace Loading

variable {α σ : Type} {fetch : σ → Except Error (List α) × σ} {state next : Loading α σ}
  {call : Nat} {new : List (LoadEvent α)}

/-! ## Work -/

/-- A bound on the transitions that are left to calls at these stages. -/
def workOf : List (LoadStage α) → Nat
  | [] => 0
  | stage :: rest => stage.remaining + workOf rest

def work (state : Loading α σ) : Nat := workOf state.stages

theorem workOf_set_lt {stages : List (LoadStage α)} {before after : LoadStage α}
    (at_ : stages[call]? = some before) (nearer : after.remaining < before.remaining) :
    workOf (stages.set call after) < workOf stages := by
  induction stages generalizing call with
  | nil => cases at_
  | cons stage stages ih =>
    cases call with
    | zero =>
      cases at_
      exact Nat.add_lt_add_right nearer _
    | succ call => exact Nat.add_lt_add_left (ih at_) _

theorem workOf_replicate (calls : Nat) :
    workOf (List.replicate calls (.check : LoadStage α)) = 6 * calls := by
  induction calls with
  | zero => rfl
  | succ calls ih =>
    rw [List.replicate_succ, workOf, ih, LoadStage.remaining]
    omega

theorem remaining_of_workOf {stages : List (LoadStage α)} (nothing : workOf stages = 0) :
    ∀ stage ∈ stages, stage.remaining = 0 := by
  induction stages with
  | nil => exact nofun
  | cons stage stages ih =>
    unfold workOf at nothing
    have rest := ih (by omega)
    exact List.forall_mem_cons.2 ⟨by omega, rest⟩

theorem Moves.work_lt (moves : Moves fetch state call new next) : next.work < state.work := by
  rcases moves.advances with ⟨before, after, at_, stages, nearer⟩
  rw [work, work, stages]
  exact workOf_set_lt at_ nearer

theorem Moves.length_stages (moves : Moves fetch state call new next) :
    next.stages.length = state.stages.length := by
  rcases moves.advances with ⟨before, after, at_, stages, _⟩
  rw [stages]
  exact List.length_set

/-- Unless every call is done, one of them can move: if all that are left wait for the lock, then
the call that holds it does not. -/
theorem Consistent.not_stuck (consistent : state.Consistent)
    (idle : ∀ call < state.stages.length, state.Idle call) {call : Nat} {stage : LoadStage α}
    (at_ : state.stages[call]? = some stage) : ∃ answer, stage = .done answer := by
  have within {call : Nat} {stage : LoadStage α} (at_ : state.stages[call]? = some stage) :=
    idle call (List.getElem?_eq_some_iff.1 at_).1
  cases within at_ with
  | missing absent => cases absent.symm.trans at_
  | done finished =>
    cases finished.symm.trans at_
    exact ⟨_, rfl⟩
  | @waiting holder queued held =>
    rcases consistent.present holder held with ⟨stage, at_holder⟩
    have fits := consistent.fits holder stage at_holder
    cases within at_holder with
    | missing absent => cases absent.symm.trans at_holder
    | done finished =>
      cases finished.symm.trans at_holder
      exact absurd held fits.1
    | waiting queued _ =>
      cases queued.symm.trans at_holder
      exact absurd held fits

/-- All calls are done. -/
def Finished (state : Loading α σ) : Prop := ∀ stage ∈ state.stages, ∃ answer, stage = .done answer

/-- A run does some of the work that is left, or no call in its schedule can move. -/
theorem run_work (consistent : state.Consistent) (schedule : List Nat) :
    (state.run fetch schedule).Consistent ∧
      (state.run fetch schedule).stages.length = state.stages.length ∧
      ((state.run fetch schedule).work < state.work ∨
        state.run fetch schedule = state ∧ ∀ call ∈ schedule, state.Idle call) := by
  induction schedule generalizing state with
  | nil => exact ⟨consistent, rfl, .inr ⟨rfl, nofun⟩⟩
  | cons call schedule ih =>
    rw [run_cons]
    rcases idle_or_moves fetch state call with ⟨idle, same⟩ | moves
    · rw [same]
      rcases ih consistent with ⟨after, length, progress⟩
      refine ⟨after, length, progress.imp_right fun ⟨unchanged, others⟩ => ⟨unchanged, ?_⟩⟩
      exact List.forall_mem_cons.2 ⟨idle, others⟩
    · rcases ih (consistent.moves moves) with ⟨after, length, progress⟩
      refine ⟨after, length.trans moves.length_stages, .inl ?_⟩
      rcases progress with less | ⟨unchanged, _⟩
      · exact less.trans moves.work_lt
      · exact (congrArg work unchanged).trans_lt moves.work_lt

theorem Finished.run (finished : state.Finished) (schedule : List Nat) :
    state.run fetch schedule = state := by
  induction schedule with
  | nil => rfl
  | cons call schedule ih =>
    rw [run_cons]
    rcases idle_or_moves fetch state call with ⟨_, same⟩ | moves
    · rw [same]
      exact ih
    · rcases moves.advances with ⟨before, after, at_, _, nearer⟩
      rcases finished before (List.mem_of_getElem? at_) with ⟨answer, rfl⟩
      exact absurd nearer (Nat.not_lt_zero _)

theorem finished_of_work (nothing : state.work = 0) : state.Finished := by
  intro stage member
  have none := remaining_of_workOf nothing stage member
  cases stage with
  | done answer => exact ⟨answer, rfl⟩
  | _ => cases none

/-- Every round of all calls does a piece of the work, until all of them are done. -/
theorem run_rounds (fetch : σ → Except Error (List α) × σ) (consistent : state.Consistent)
    (rounds : Nat) :
    (state.run fetch (List.replicate rounds (List.range state.stages.length)).flatten).Finished ∨
      (state.run fetch (List.replicate rounds (List.range state.stages.length)).flatten).work +
        rounds ≤ state.work := by
  induction rounds generalizing state with
  | zero => exact .inr (Nat.le_refl _)
  | succ rounds ih =>
    rw [List.replicate_succ, List.flatten_cons, run_append]
    obtain ⟨after, length, progress⟩ :=
      run_work consistent (List.range state.stages.length)
    rcases progress with less | ⟨unchanged, idle⟩
    · have later := ih after
      rw [length] at later
      exact later.imp_right fun least => by omega
    · have finished : state.Finished := by
        intro stage member
        have stuck : ∀ call < state.stages.length, state.Idle call := by
          intro call inRange
          exact idle call (List.mem_range.2 inRange)
        rcases List.mem_iff_getElem?.1 member with ⟨call, at_⟩
        exact consistent.not_stuck stuck at_
      rw [finished.run, finished.run]
      exact .inl finished

/-- The calls that take turns are all done at the end. -/
theorem start_finished (fetch : σ → Except Error (List α) × σ) (loaded : Option (List α))
    (store : σ) (calls : Nat) :
    ((start loaded store calls).run fetch (rounds calls)).Finished ∧
      ((start loaded store calls).run fetch (rounds calls)).stages.length = calls := by
  have consistent := Consistent.start loaded store calls
  have length : (start loaded store calls).stages.length = calls := List.length_replicate
  have all : (start loaded store calls).work = 6 * calls := workOf_replicate calls
  refine ⟨?_, (run_work consistent _).2.1.trans length⟩
  have progress := run_rounds fetch consistent (6 * calls)
  rw [length, all] at progress
  rcases progress with finished | least
  · exact finished
  · have nothing := Nat.le_of_add_le_add_right (least.trans_eq (Nat.zero_add _).symm)
    exact finished_of_work (Nat.le_zero.1 nothing)

/-! ## What concurrent loads promise -/

/-- Whatever the calls have done, there are steps that bring all of them to their end. -/
theorem Consistent.exists_finished (consistent : state.Consistent)
    (fetch : σ → Except Error (List α) × σ) : ∃ later, (state.run fetch later).Finished := by
  rcases run_rounds fetch consistent (state.work + 1) with finished | least
  · exact ⟨_, finished⟩
  · omega

/-- Any number of calls, in any order of their steps and with any answers of the store, share one
fetch: one call at most fetches at a time, one fetch at most succeeds, and none does if there were
instances at first; a call begins to fetch once at most; kept instances stay, and from then on
nobody fetches; a call that ends with instances ends with the kept ones; and a call fails only if
its own fetch did. The store itself was asked no more often than the events tell, and all calls can
still come to their end. -/
theorem run_shares_fetch (fetch : σ → Except Error (List α) × σ) (loaded : Option (List α))
    (store : σ) (calls : Nat) (schedule : List Nat) :
    let state := (start loaded store calls).run fetch schedule
    let events := (start loaded store calls).events fetch schedule
    (∀ call other : Nat, state.stages[call]? = some .fetching →
      state.stages[other]? = some .fetching → call = other) ∧
    (loaded.toList ++ events.filterMap LoadEvent.rows?).length ≤ 1 ∧
    (∀ call, ∃ answer, eventsOf call events <+: [.began call, .fetched call answer]) ∧
    (∀ rows, state.loaded = some rows → ∀ later,
      (state.run fetch later).loaded = some rows ∧ state.events fetch later = []) ∧
    (∀ (call : Nat) (rows : List α), state.stages[call]? = some (.done (.ok rows)) →
      state.loaded = some rows) ∧
    (∀ (call : Nat) (e : Error), state.stages[call]? = some (.done (.error e)) →
      eventsOf call events = [.began call, .fetched call (.error e)]) ∧
    Asked fetch store (events.filterMap LoadEvent.answer?) state.store ∧
    ∃ later, (state.run fetch later).Finished := by
  intro state events
  have accounts : Accounts fetch loaded store events state :=
    (Accounts.start fetch loaded store calls).run schedule
  have consistent := accounts.consistent
  refine ⟨?_, ?_, accounts.fetches_once, ?_, ?_, ?_, accounts.asked,
    consistent.exists_finished fetch⟩
  · intro call other first second
    exact consistent.exclusive first second
  · rw [← accounts.known]
    exact Option.length_toList_le
  · intro rows kept later
    exact consistent.run_silent fetch kept later
  · intro call rows ended
    have fits := consistent.fits call _ ended
    exact fits.2 rows rfl
  · intro call e ended
    have own := accounts.recounts call _ ended
    rcases own with fetched | ⟨_, rows, same⟩
    · exact fetched
    · cases same

/-- The first of three calls fetches in vain, the second one waits for it and fetches again, and the
third one finds what that fetch has got. -/
theorem run_shares_fetch_after_failure :
    let failing : Error := .store .connection "" none
    let fetch (asked : Nat) : Except Error (List Nat) × Nat :=
      (if asked = 0 then .error failing else .ok [asked], asked + 1)
    let state := (start none 0 3).run fetch [0, 1, 2, 0, 0, 1, 0, 0, 1, 1, 1, 1, 1, 2, 2, 2, 2]
    state.stages = [.done (.error failing), .done (.ok [1]), .done (.ok [1])] ∧
      state.loaded = some [1] ∧ ∀ later, (state.run fetch later).loaded = some [1] := by
  intro failing fetch state
  have stages : state.stages = [.done (.error failing), .done (.ok [1]), .done (.ok [1])] := by
    simp [state, fetch, run, start, step, moved, List.replicate]
  obtain ⟨_, _, _, stays, returns, _⟩ := run_shares_fetch fetch none 0 3
    [0, 1, 2, 0, 0, 1, 0, 0, 1, 1, 1, 1, 1, 2, 2, 2, 2]
  have kept : state.loaded = some [1] := returns 2 [1] (congrArg (·[2]?) stages)
  exact ⟨stages, kept, fun later => (stays [1] kept later).1⟩

end Loading

end TableQuery
