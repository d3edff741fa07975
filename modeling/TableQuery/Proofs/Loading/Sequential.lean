import Mathlib.Data.List.Count
import Mathlib.Data.List.Nodup
import Mathlib.Data.List.Perm.Basic
import TableQuery.Proofs.Loading.Progress
import TableQuery.Proofs.Relation.Load

/-!
# Loads at the same time and one after the other

If the store keeps to one answer however often it is asked, then the calls of
`Relation.loadConcurrently` answer like as many loads one after the other, and leave the same
relation and store behind. This is read off the history of the calls: those that ended with an
error have fetched, and what is kept was got by one of them.
-/

namespace TableQuery

namespace Loading

variable {α σ : Type} {fetch : σ → Except Error (List α) × σ} {state : Loading α σ} {call : Nat}

/-! ## The end of a run -/

/-- If all calls end with one answer, then this is the answer of each. -/
theorem Finished.answers_eq (finished : state.Finished) {answer : Except Error (List α)}
    (same : ∀ (call : Nat) (ended : Except Error (List α)),
      state.stages[call]? = some (.done ended) → ended = answer) :
    state.answers = List.replicate state.stages.length answer := by
  have stages : state.stages = List.replicate state.stages.length (.done answer) := by
    refine List.eq_replicate_iff.2 ⟨rfl, fun stage member => ?_⟩
    rcases finished stage member with ⟨ended, rfl⟩
    rcases List.mem_iff_getElem?.1 member with ⟨call, at_⟩
    rw [same call ended at_]
  have ended : (LoadStage.done answer).answer? = some answer := rfl
  rw [answers, stages, List.length_replicate]
  exact List.filterMap_replicate_of_some ended

/-- Once all calls are done, nobody is about to keep anything. -/
theorem Finished.known_eq (finished : state.Finished) : state.known = state.loaded := by
  cases held : state.holder with
  | none => exact known_of_free held
  | some call =>
    cases at_ : state.stages[call]? with
    | none => simp [known, held, at_]
    | some stage =>
      rcases finished stage (List.mem_of_getElem? at_) with ⟨answer, rfl⟩
      simp [known_of_held held at_, LoadStage.arrived?]

/-! ## Steady stores -/

theorem Asked.store_eq {store later : σ} {answers : List (Except Error (List α))}
    (asked : Asked fetch store answers later) :
    later = (Prod.snd ∘ fetch)^[answers.length] store := by
  induction asked with
  | nil => rfl
  | snoc _ ih =>
    rw [List.length_append, List.length_singleton, Function.iterate_succ_apply', ← ih]
    rfl

theorem Asked.eq_of_steady {store later : σ} {answer : Except Error (List α)}
    {answers : List (Except Error (List α))} (asked : Asked fetch store answers later)
    (steady : Steady fetch store answer) : ∀ given ∈ answers, given = answer := by
  induction asked with
  | nil => exact nofun
  | snoc asked ih =>
    refine List.forall_mem_append.2 ⟨ih, List.forall_mem_singleton.2 ?_⟩
    rw [asked.store_eq]
    exact steady _

/-! ## One answer for all calls -/

/-- The call whose fetch comes to its end. -/
def fetcher? : LoadEvent α → Option Nat
  | .began _ => none
  | .fetched call _ => some call

theorem length_answers (events : List (LoadEvent α)) :
    (events.filterMap LoadEvent.answer?).length = (events.filterMap fetcher?).length := by
  induction events with
  | nil => rfl
  | cons event events ih =>
    cases event with
    | began call => exact ih
    | fetched call answer => exact congrArg Nat.succ ih

theorem count_fetcher (call : Nat) (events : List (LoadEvent α)) :
    (events.filterMap fetcher?).count call =
      ((eventsOf call events).filterMap LoadEvent.answer?).length := by
  induction events with
  | nil => rfl
  | cons event events ih =>
    rw [eventsOf_cons]
    cases event with
    | began other =>
      split
      · exact ih
      · exact ih
    | fetched other answer =>
      split
      · rename_i same
        cases (same : call = other)
        exact List.count_cons_self.trans (congrArg Nat.succ ih)
      · rename_i distinct
        exact (List.count_cons_of_ne (Ne.symm distinct)).trans ih

/-- If each of the calls has fetched, the store was asked as often as there are calls. -/
theorem length_answers_of_each {events : List (LoadEvent α)} {calls : Nat}
    (each : ∀ call < calls, ((eventsOf call events).filterMap LoadEvent.answer?).length = 1)
    (strangers : ∀ call, calls ≤ call → eventsOf call events = []) :
    (events.filterMap LoadEvent.answer?).length = calls := by
  have same : (events.filterMap fetcher?).Perm (List.range calls) := by
    refine List.perm_iff_count.2 fun call => ?_
    rw [count_fetcher, List.count_range]
    split
    · exact each call ‹_›
    · rw [strangers call (Nat.le_of_not_lt ‹_›)]
      rfl
  rw [length_answers, same.length_eq, List.length_range]

section

variable {loaded : Option (List α)} {store : σ} {answer : Except Error (List α)} {rows : List α}
  {e : Error} {events : List (LoadEvent α)} {calls : Nat}

/-- A steady store answers the same to every call. -/
theorem Accounts.answers_eq (accounts : Accounts fetch loaded store events state)
    (steady : Steady fetch store answer) : events.filterMap LoadEvent.answer? =
      List.replicate (events.filterMap LoadEvent.answer?).length answer :=
  List.eq_replicate_iff.2 ⟨rfl, accounts.asked.eq_of_steady steady⟩

theorem rows_eq_answers (events : List (LoadEvent α)) : events.filterMap LoadEvent.rows? =
    (events.filterMap LoadEvent.answer?).filterMap Except.toOption := by
  rw [List.filterMap_filterMap]
  refine List.filterMap_congr fun event _ => ?_
  rcases event with _ | ⟨_, _ | _⟩ <;> rfl

theorem answer_mem_of_own {ended : Except Error (List α)}
    (own : eventsOf call events = [.began call, .fetched call ended]) :
    ended ∈ events.filterMap LoadEvent.answer? := by
  have member : LoadEvent.fetched call ended ∈ eventsOf call events := by
    rw [own]
    exact List.mem_of_getLast? rfl
  exact List.mem_filterMap.2 ⟨_, List.mem_of_mem_filter member, rfl⟩

/-- Calls on a loaded relation answer from what it holds. -/
theorem final_of_loaded (kept : state.loaded = some rows) (finished : state.Finished)
    (accounts : Accounts fetch (some rows) store [] state) :
    state.answers = List.replicate state.stages.length (.ok rows) ∧ state.store = store := by
  have same : ∀ (call : Nat) (ended : Except Error (List α)),
      state.stages[call]? = some (.done ended) → ended = .ok rows := by
    intro call ended at_
    rcases accounts.recounts call _ at_ with fetched | ⟨_, found, rfl⟩
    · cases fetched
    · have held := (accounts.consistent.fits call _ at_).2 found rfl
      rw [Option.some.inj (kept.symm.trans held)]
  exact ⟨finished.answers_eq same, accounts.asked.store_eq⟩

/-- A call that is done although nothing is kept has fetched for itself. -/
theorem Accounts.own_of_empty (accounts : Accounts fetch loaded store events state)
    (empty : state.loaded = none) {ended : Except Error (List α)}
    (at_ : state.stages[call]? = some (.done ended)) :
    eventsOf call events = [.began call, .fetched call ended] := by
  rcases accounts.recounts call _ at_ with fetched | ⟨_, found, rfl⟩
  · exact fetched
  · have kept := (accounts.consistent.fits call _ at_).2 found rfl
    cases empty.symm.trans kept

/-- With a steady store, what is kept at the end is as much as the store was asked for. -/
theorem Accounts.kept_of_steady (accounts : Accounts fetch none store events state)
    (finished : state.Finished) (steady : Steady fetch store answer) :
    state.loaded.toList = (List.replicate (events.filterMap LoadEvent.answer?).length
      answer).filterMap Except.toOption := by
  have known := accounts.known
  rw [finished.known_eq, rows_eq_answers, accounts.answers_eq steady] at known
  exact known

/-- If the store has instances, one call fetches them and all calls share them. -/
theorem final_of_ok (accounts : Accounts fetch none store events state)
    (finished : state.Finished) (present : state.stages ≠ [])
    (steady : Steady fetch store (.ok rows)) :
    state.answers = List.replicate state.stages.length (.ok rows) ∧
      state.loaded = some rows ∧ state.store = (fetch store).2 := by
  have known := accounts.kept_of_steady finished steady
  rw [List.filterMap_replicate_of_some (f := Except.toOption) rfl] at known
  cases kept : state.loaded with
  | none =>
    have silent : events.filterMap LoadEvent.answer? = [] := by
      rw [kept] at known
      exact List.length_eq_zero_iff.1 ((List.replicate_eq_nil_iff _).1 known.symm)
    rcases List.exists_cons_of_ne_nil present with ⟨first, rest, stages⟩
    rcases finished first (stages ▸ List.mem_cons_self) with ⟨ended, rfl⟩
    have at_ : state.stages[0]? = some (.done ended) := congrArg (·[0]?) stages
    have answered := answer_mem_of_own (accounts.own_of_empty kept at_)
    rw [silent] at answered
    cases answered
  | some found =>
    rw [kept] at known
    have one : (events.filterMap LoadEvent.answer?).length = 1 := by
      simpa using (congrArg List.length known).symm
    have same : found = rows := by
      rw [one] at known
      exact (List.cons.inj known).1
    subst same
    refine ⟨finished.answers_eq ?_, rfl, ?_⟩
    · intro call ended at_
      rcases accounts.recounts call _ at_ with fetched | ⟨_, shared, rfl⟩
      · exact accounts.asked.eq_of_steady steady ended (answer_mem_of_own fetched)
      · have held := (accounts.consistent.fits call _ at_).2 shared rfl
        rw [Option.some.inj (kept.symm.trans held)]
    · rw [accounts.asked.store_eq, one]
      rfl

/-- If the store fails, every call fetches in vain. -/
theorem final_of_error (accounts : Accounts fetch none store events state)
    (finished : state.Finished) (steady : Steady fetch store (.error e)) :
    state.answers = List.replicate state.stages.length (.error e) ∧
      state.loaded = none ∧ state.store = (Prod.snd ∘ fetch)^[state.stages.length] store := by
  have known := accounts.kept_of_steady finished steady
  rw [List.filterMap_replicate_of_none (f := Except.toOption) rfl] at known
  have empty : state.loaded = none := Option.toList_eq_nil_iff.1 known
  refine ⟨finished.answers_eq ?_, empty, ?_⟩
  · intro call ended at_
    have own := accounts.own_of_empty empty at_
    exact accounts.asked.eq_of_steady steady ended (answer_mem_of_own own)
  · rw [accounts.asked.store_eq, length_answers_of_each]
    · intro call inRange
      rcases finished _ (List.getElem_mem inRange) with ⟨ended, done⟩
      rw [accounts.own_of_empty empty (List.getElem?_eq_some_iff.2 ⟨inRange, done⟩)]
      rfl
    · intro call outside
      exact accounts.strangers call (List.getElem?_eq_none outside)

end

end Loading

/-- Loads at the same time answer like as many loads one after the other, and leave the same
relation and store behind, if the store keeps to its answer. -/
theorem Relation.loadConcurrently_eq_loadTimes {α σ : Type} {model : Model α} [Store σ]
    {relation : Relation model} {store : σ} {answer : Except Error (List α)}
    (steady : Steady (relation.query.fetch model) store answer) (calls : Nat) :
    relation.loadConcurrently calls store = relation.loadTimes calls store := by
  rcases relation with ⟨query, loaded⟩
  obtain ⟨finished, length⟩ :=
    Loading.start_finished (query.fetch model) loaded store calls
  have accounts := (Loading.Accounts.start (query.fetch model) loaded store calls).run
    (Loading.rounds calls)
  rw [List.nil_append] at accounts
  unfold loadConcurrently
  cases loaded with
  | some rows =>
    have consistent := Loading.Consistent.start (some rows) store calls
    rcases consistent.run_silent (query.fetch model) rfl (Loading.rounds calls) with ⟨kept, silent⟩
    rw [silent] at accounts
    rcases Loading.final_of_loaded kept finished accounts with ⟨answers, unasked⟩
    rw [loadTimes_of_loaded rfl]
    simp only [answers, kept, unasked, length]
  | none =>
    cases answer with
    | error e =>
      rcases Loading.final_of_error accounts finished steady with ⟨answers, empty, asked⟩
      rw [loadTimes_of_error rfl steady]
      simp only [answers, empty, asked, length]
    | ok rows =>
      cases calls with
      | zero => rfl
      | succ n =>
        have present : ((Loading.start none store (n + 1)).run (query.fetch model)
            (Loading.rounds (n + 1))).stages ≠ [] := List.ne_nil_of_length_eq_add_one length
        rcases Loading.final_of_ok accounts finished present steady with ⟨answers, kept, asked⟩
        have answer : (query.fetch model store).1 = .ok rows := steady 0
        rw [loadTimes_of_ok rfl answer]
        simp only [answers, kept, asked, length]

end TableQuery
