import TableQuery.Proofs.Query.Fetching
import TableQuery.Proofs.Workspace.Terminal

/-!
# Terminal operations succeed in full or change nothing

A terminal operation asks for one query, if it asks at all, and tells of all the instances that the
fetch of this query gets. If the fetch fails, the operation fails with the same error. A failure of
whatever kind leaves the relation as it was, so the operation can be repeated as if it had never been
tried: `Terminal.perform_all_or_nothing`.

* `Terminal.told` is what an operation makes of the instances that it gets.
* `Query.Ends` says which fetch fails, and with which error.
-/

namespace TableQuery

namespace Terminal

variable {α σ : Type} [Store σ] {model : Model α} {operation : Terminal}
  {relation : Relation model}

/-- What an operation tells of all the instances that it gets. Only an operation for a single record
that has to exist can fail at this stage. -/
def told (operation : Terminal) (relation : Relation model) (rows : List α) :
    Except Error (Found α) :=
  match operation with
  | .load | .firstN _ => .ok (.rows rows)
  | .each => .ok (.visited rows)
  | .count => .ok (.count rows.length)
  | .first | .findFirst _ => .ok (.atMostOne rows.head?)
  | .last => .ok (.atMostOne (relation.query.ending 1 rows).getLast?)
  | .lastN n => .ok (.rows (relation.query.ending n rows))
  | .findRequired given => match rows with
    | row :: _ => .ok (.one row)
    | [] =>
      let asked := (relation.query.forMatch given).compile model.mapping
      .error (.recordNotFound model.table (asked.toOption.bind (·.filter)))

/-- The instances that an operation tells of if it does not ask: those loaded for a load, and none
for a page of length zero. -/
def unasked (operation : Terminal) (relation : Relation model) : List α :=
  if operation.isLoad then relation.loaded.getD [] else []

end Terminal

/-! ## Operations that ask -/

section Asking

variable {α σ : Type} [Store σ] {model : Model α} {store next : σ}
  {answer : Except Error (List α)}

/-- The error of a record that has to exist shows a filter that is compiled once more; it has been
compiled before, so this cannot fail. -/
theorem Query.findRequired_of_fetch {query : Query} {given : Filter}
    (fetched : (query.forMatch given).fetch model store = (answer, next)) :
    ((query.findRequired model given store).1.map Found.one,
        (query.findRequired model given store).2) =
      (answer.bind ((Terminal.findRequired given).told (.ofQuery query : Relation model)), next) := by
  rw [findRequired, single_eq_forMatch]
  dsimp only
  cases compiled : (query.forMatch given).compile model.mapping with
  | error e =>
    rw [fetch_of_compile_error compiled] at fetched
    cases fetched
    rw [fetch_of_compile_error compiled]
    rfl
  | ok params =>
    rw [fetched]
    rcases answer with e | ⟨_ | ⟨row, rows⟩⟩
    · rfl
    · simp only [Except.bind, Terminal.told, Relation.ofQuery, compiled]
      rfl
    · rfl

namespace Terminal

variable {operation : Terminal} {relation : Relation model} {query : Query}

theorem asked?_of_load (load : operation.isLoad = true) (relation : Relation model) :
    operation.asked? relation = if relation.loaded.isSome then none else some relation.query := by
  cases operation with
  | load | each | count => rfl
  | _ => cases load

theorem loaded_of_asked (load : operation.isLoad = true)
    (asks : operation.asked? relation = some query) :
    relation.loaded = none ∧ query = relation.query := by
  rw [asked?_of_load load] at asks
  cases loaded : relation.loaded with
  | none =>
    rw [loaded] at asks
    exact ⟨rfl, (Option.some.inj asks).symm⟩
  | some rows =>
    rw [loaded] at asks
    cases asks

theorem loaded_of_unasked (load : operation.isLoad = true)
    (unasked : operation.asked? relation = none) : ∃ rows, relation.loaded = some rows := by
  rw [asked?_of_load load] at unasked
  cases loaded : relation.loaded with
  | none =>
    rw [loaded] at unasked
    cases unasked
  | some rows => exact ⟨rows, rfl⟩

theorem load_of_asked (load : operation.isLoad = true)
    (asks : operation.asked? relation = some query)
    (fetched : query.fetch model store = (answer, next)) :
    relation.load store = (answer, relation.withLoaded answer.toOption, next) := by
  obtain ⟨empty, rfl⟩ := loaded_of_asked load asks
  rw [Relation.load_of_unloaded empty, fetched]
  rfl

/-- A query is asked for a page only if the page is not empty. -/
theorem pos_of_asked {n : UInt64} {page : Query}
    (asks : (if n = 0 then none else some page) = some query) : n ≠ 0 ∧ page = query := by
  by_cases none : n = 0
  · rw [if_pos none] at asks
    cases asks
  · rw [if_neg none] at asks
    exact ⟨none, Option.some.inj asks⟩

/-- An operation tells of what the fetch of its query gets, and keeps it if it is a load. -/
theorem perform_of_asked (asks : operation.asked? relation = some query)
    (fetched : query.fetch model store = (answer, next)) :
    operation.perform relation store =
      (answer.bind (operation.told relation),
        relation.withLoaded (if operation.isLoad then answer.toOption else relation.loaded),
        next) := by
  cases operation with
  | load =>
    rw [perform, load_of_asked rfl asks fetched]
    cases answer <;> rfl
  | each =>
    have loads := load_of_asked rfl asks fetched
    rcases answer with e | rows
    · rw [perform, Relation.each_of_error loads]
      rfl
    · have visited : rows.foldl (fun rows row => row :: rows) [] = rows.reverse := by
        simp
      rw [perform, Relation.each_of_ok loads]
      simp only [Except.map, visited, List.reverse_reverse]
      rfl
  | count =>
    rw [perform, Relation.count, load_of_asked rfl asks fetched]
    cases answer <;> rfl
  | first =>
    cases asks
    rw [perform, Query.first, Query.firstN_of_pos (by decide), fetched]
    cases answer <;> rfl
  | last =>
    cases asks
    rw [perform, Query.last, Query.lastN_of_pos (by decide), fetched]
    cases answer <;> rfl
  | firstN n =>
    obtain ⟨some, rfl⟩ := pos_of_asked asks
    rw [perform, Query.firstN_of_pos some, fetched]
    cases answer <;> rfl
  | lastN n =>
    obtain ⟨some, rfl⟩ := pos_of_asked asks
    rw [perform, Query.lastN_of_pos some, fetched]
    cases answer <;> rfl
  | findFirst given =>
    cases asks
    rw [perform, Query.findFirst, Query.single_eq_forMatch, fetched]
    cases answer <;> rfl
  | findRequired given =>
    cases asks
    have found := Query.findRequired_of_fetch fetched
    rw [Prod.mk.injEq] at found
    rw [perform, ← found.2]
    exact congrArg (·, relation, _) found.1

theorem result_of_asked (asks : operation.asked? relation = some query) (store : σ) :
    (operation.perform relation store).1 =
      (query.fetch model store).1.bind (operation.told relation) :=
  congrArg Prod.fst (perform_of_asked asks rfl)

end Terminal

end Asking

namespace Terminal

variable {α σ : Type} [Store σ] {model : Model α} {operation : Terminal} {relation : Relation model}

/-- An operation that does not ask tells of what is loaded, or of nothing. -/
theorem perform_of_unasked (unasked : operation.asked? relation = none) (store : σ) :
    operation.perform relation store =
        (operation.told relation (operation.unasked relation), relation, store) ∧
      ∃ found, operation.told relation (operation.unasked relation) = .ok found := by
  have zero_of_page {n : UInt64} {page : Query}
      (asked : (if n = 0 then none else some page) = none) : n = 0 := by
    by_contra some
    rw [if_neg some] at asked
    cases asked
  cases operation with
  | load =>
    obtain ⟨rows, loaded⟩ := loaded_of_unasked rfl unasked
    rw [perform_load_of_loaded loaded, Terminal.unasked, loaded]
    exact ⟨rfl, _, rfl⟩
  | each =>
    obtain ⟨rows, loaded⟩ := loaded_of_unasked rfl unasked
    rw [perform_each_of_loaded loaded, Terminal.unasked, loaded]
    exact ⟨rfl, _, rfl⟩
  | count =>
    obtain ⟨rows, loaded⟩ := loaded_of_unasked rfl unasked
    rw [perform_count_of_loaded loaded, Terminal.unasked, loaded]
    exact ⟨rfl, _, rfl⟩
  | firstN n =>
    cases zero_of_page unasked
    exact ⟨rfl, _, rfl⟩
  | lastN n =>
    cases zero_of_page unasked
    have nothing : relation.query.ending 0 ([] : List α) = [] := by
      unfold Query.ending
      split <;> rfl
    have told : (lastN 0).told relation ((lastN 0).unasked relation) = .ok (.rows []) :=
      congrArg (fun rows => Except.ok (Found.rows rows)) nothing
    rw [told]
    exact ⟨rfl, _, rfl⟩
  | first | last | findFirst | findRequired => cases unasked

/-! ## Failures -/

/-- A load tells of whatever it gets. -/
theorem exists_told_of_load (load : operation.isLoad = true) (rows : List α) :
    ∃ found, operation.told relation rows = .ok found := by
  cases operation with
  | load | each | count => exact ⟨_, rfl⟩
  | _ => cases load

/-- An operation that fails leaves its relation as it was. -/
theorem relation_of_error {store : σ} {e : Error}
    (fails : (operation.perform relation store).1 = .error e) :
    (operation.perform relation store).2.1 = relation ∧
      (operation.isLoad = true → relation = .ofQuery relation.query) := by
  cases asked : operation.asked? relation with
  | none =>
    obtain ⟨same, found, told⟩ := perform_of_unasked asked store
    rw [same, told] at fails
    cases fails
  | some query =>
    rcases fetched : query.fetch model store with ⟨answer, next⟩
    rw [perform_of_asked asked fetched] at fails ⊢
    cases load : operation.isLoad with
    | false => exact ⟨rfl, fun never => absurd never Bool.false_ne_true⟩
    | true =>
      have fresh : relation = .ofQuery relation.query := by
        have empty := (loaded_of_asked load asked).1
        rcases relation with ⟨query, loaded⟩
        cases empty
        rfl
      cases answer with
      | error e => exact ⟨fresh ▸ rfl, fun _ => fresh⟩
      | ok rows =>
        obtain ⟨found, told⟩ : ∃ found, operation.told relation rows = .ok found :=
          exists_told_of_load load rows
        rw [Except.bind, told] at fails
        cases fails

/-- After a failure, the operation does to any store what it does for a relation that has just been
made of the same query. -/
theorem perform_again {store : σ} {e : Error}
    (fails : (operation.perform relation store).1 = .error e) (repaired : σ) :
    let again := operation.perform (operation.perform relation store).2.1 repaired
    let fresh := operation.perform (.ofQuery relation.query : Relation model) repaired
    again.1 = fresh.1 ∧ again.2.2 = fresh.2.2 := by
  intro again fresh
  obtain ⟨same, loads⟩ := relation_of_error fails
  cases load : operation.isLoad with
  | true =>
    have equal : again = fresh := by
      dsimp only [again, fresh]
      rw [same, ← loads load]
    rw [equal]
    exact ⟨rfl, rfl⟩
  | false =>
    have unread := perform_of_unread load relation none repaired
    have forgotten : relation.withLoaded none = .ofQuery relation.query := rfl
    dsimp only [again, fresh]
    rw [same, ← forgotten, unread]
    exact ⟨rfl, rfl⟩

/-- An operation leaves at most one entry in the log of the canned store. -/
theorem length_entries_le (operation : Terminal) (relation : Relation model) :
    (operation.entries relation).length ≤ 1 := by
  unfold entries
  split
  · rename_i query _
    unfold Query.entries
    split <;> simp
  · simp

/-- A terminal operation tells of every record that it asks for, or else fails and changes nothing.
If it asks, the fetch of its query decides: the result is what the operation makes of all the
instances, or the error of the fetch, and a load keeps the instances of a fetch that succeeds. If it
does not ask, it cannot fail. No instance is visited unless all are there. A failure leaves the
relation as it was, and trying again gives what a new relation of the same query would give. The
canned store notes one fetch at most. -/
theorem perform_all_or_nothing (operation : Terminal) (relation : Relation model) (store : σ) :
    let result := (operation.perform relation store).1
    let after := (operation.perform relation store).2.1
    let left := (operation.perform relation store).2.2
    (∀ query, operation.asked? relation = some query →
      ∃ answer, query.Ends model store answer left ∧
        result = answer.bind (operation.told relation) ∧
        after = relation.withLoaded
          (if operation.isLoad then answer.toOption else relation.loaded)) ∧
    (operation.asked? relation = none →
      (result = operation.told relation (operation.unasked relation) ∧
        ∃ found, result = .ok found) ∧ after = relation ∧ left = store) ∧
    (∀ {β : Type} (visit : β → α → β) (start : β),
      (∀ rows, (relation.load store).1 = .ok rows →
        (relation.each visit start store).1 = (.ok (), rows.foldl visit start)) ∧
      ∀ e, (relation.load store).1 = .error e →
        (relation.each visit start store).1 = (.error e, start)) ∧
    (∀ e, result = .error e → after = relation ∧ ∀ repaired : σ,
      let again := operation.perform after repaired
      let fresh := operation.perform (.ofQuery relation.query : Relation model) repaired
      again.1 = fresh.1 ∧ again.2.2 = fresh.2.2) ∧
    ∀ canned : CannedStore, ∃ entries, entries.length ≤ 1 ∧
      (operation.perform relation canned).2.2 = canned.logged entries := by
  intro result after left
  refine ⟨?_, ?_, ?_, ?_, ?_⟩
  · intro query asks
    have ends := query.fetch_ends model store
    have performed := perform_of_asked asks (Prod.eta (query.fetch model store)).symm
    refine ⟨(query.fetch model store).1, ?_, ?_, ?_⟩
    · exact (congrArg (·.2.2) performed : left = _) ▸ ends
    · exact result_of_asked asks store
    · exact congrArg (·.2.1) performed
  · intro unasked
    obtain ⟨performed, found, told⟩ := perform_of_unasked unasked store
    have same : result = operation.told relation (operation.unasked relation) :=
      congrArg Prod.fst performed
    exact ⟨⟨same, found, same.trans told⟩, congrArg (·.2.1) performed,
      congrArg (·.2.2) performed⟩
  · intro β visit start
    constructor
    · intro rows loads
      exact congrArg Prod.fst (Relation.each_of_ok (Prod.ext loads rfl) visit start)
    · intro e fails
      exact congrArg Prod.fst (Relation.each_of_error (Prod.ext fails rfl) visit start)
  · intro e fails
    exact ⟨(relation_of_error fails).1, perform_again fails⟩
  · intro canned
    exact ⟨_, length_entries_le operation relation, operation.perform_store relation canned⟩

/-- The second of three records has no instance: the callback is never called, nothing is kept, and
once the record is gone all the others are visited. -/
theorem perform_all_or_nothing_of_bad_record :
    let model : Model (Option String) :=
      { table := "Users"
        ofRecord := fun record => if record.id = some "bad" then .error (.custom "no instance")
          else .ok record.id }
    let relation : Relation model := .all
    let store := CannedStore.ofRecords [.new "rec1", .new "bad", .new "rec2"]
    let repaired := CannedStore.ofRecords [.new "rec1", .new "rec2"]
    let failed := each.perform relation store
    failed.1 = .error (.custom "no instance") ∧ failed.2.1 = relation ∧
      (relation.each (fun n _ => n + 1) 0 store).1 = (.error (.custom "no instance"), 0) ∧
      (each.perform failed.2.1 repaired).1 =
        .ok (.visited [some "rec1", some "rec2"]) := by
  intro model relation store repaired failed
  have fails : failed.1 = .error (.custom "no instance") := rfl
  obtain ⟨_, _, visits, failure, _⟩ := perform_all_or_nothing each relation store
  obtain ⟨same, again⟩ := failure _ fails
  exact ⟨fails, same, (visits (fun n _ => n + 1) 0).2 _ rfl, (again repaired).1⟩

end Terminal

end TableQuery
