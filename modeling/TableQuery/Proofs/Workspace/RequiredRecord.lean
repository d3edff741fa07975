import TableQuery.Proofs.Workspace.AllOrNothing

/-!
# Records that have to exist

The search for a record that has to exist is written apart from the search for a record that may be
missing. Nevertheless the two ask every store the same, and tell the same as long as there is a
record or the fetch fails. If there is none, the first search fails, and its error shows the filter
that the store was asked with: `Terminal.findRequired_agrees`.

Which fetches a store receives is told by a store of any kind under watch. `Watched` notes them and
changes nothing else, and a terminal operation leaves its entry there just as in the log of the
canned store: `Terminal.perform_watched`.
-/

namespace TableQuery

variable {α σ : Type} [Store σ] {model : Model α}

/-! ## Stores under watch -/

/-- A store with the fetches that it has received, the oldest first. -/
structure Watched (σ : Type) where
  store : σ
  calls : List FetchCall

namespace Watched

/-- The store answers as it does when nobody watches. -/
instance : Store (Watched σ) where
  fetch table params watched :=
    let (answer, next) := Store.fetch table params watched.store
    (answer, ⟨next, watched.calls ++ [⟨table, params⟩]⟩)

end Watched

theorem Query.fetch_watched (query : Query) (watched : Watched σ) :
    query.fetch model watched = ((query.fetch model watched.store).1,
      ⟨(query.fetch model watched.store).2, watched.calls ++ query.entries model⟩) := by
  unfold entries
  cases compiled : query.compile model.mapping with
  | error e =>
    rw [fetch_of_compile_error compiled, fetch_of_compile_error compiled, List.append_nil]
  | ok params =>
    rcases asked : Store.fetch model.tableRef params watched.store with ⟨answer, next⟩
    have seen : Store.fetch model.tableRef params watched =
        (answer, ⟨next, watched.calls ++ [⟨model.tableRef, params⟩]⟩) :=
      congrArg
        (fun told => (told.1, Watched.mk told.2 (watched.calls ++ [⟨model.tableRef, params⟩]))) asked
    cases answer with
    | error e => rw [fetch_of_store_error compiled seen, fetch_of_store_error compiled asked]
    | ok records => rw [fetch_of_records compiled seen, fetch_of_records compiled asked]

namespace Terminal

/-- An operation does the same to a store under watch, and its entry is what is noted. -/
theorem perform_watched (operation : Terminal) (relation : Relation model) (watched : Watched σ) :
    operation.perform relation watched = ((operation.perform relation watched.store).1,
      (operation.perform relation watched.store).2.1,
      ⟨(operation.perform relation watched.store).2.2,
        watched.calls ++ operation.entries relation⟩) := by
  unfold entries
  cases asked : operation.asked? relation with
  | none =>
    rw [(perform_of_unasked asked watched).1, (perform_of_unasked asked watched.store).1,
      List.append_nil]
  | some query =>
    rcases fetched : query.fetch model watched.store with ⟨answer, next⟩
    have seen : query.fetch model watched = _ := query.fetch_watched watched
    rw [fetched] at seen
    rw [perform_of_asked asked seen, perform_of_asked asked fetched]

/-- The fetches that an operation asks a store for. -/
def calls (operation : Terminal) (relation : Relation model) (store : σ) : List FetchCall :=
  (operation.perform relation (⟨store, []⟩ : Watched σ)).2.2.calls

theorem calls_eq_entries (operation : Terminal) (relation : Relation model) (store : σ) :
    operation.calls relation store = operation.entries relation := by
  rw [calls, perform_watched, List.nil_append]

/-! ## The two searches -/

section Searches

variable {operation : Terminal} {relation : Relation model} {given : Filter} {store : σ}

/-- A fetch that succeeds was asked for with the parameters of its query, so the query compiles
again whenever it is tried. -/
theorem entries_of_fetch_eq_ok {query : Query} {rows : List α}
    (fetched : (query.fetch model store).1 = .ok rows) :
    ∃ params, query.compile model.mapping = .ok params ∧
      query.entries model = [⟨model.tableRef, params⟩] := by
  unfold Query.entries
  cases compiled : query.compile model.mapping with
  | error e =>
    rw [Query.fetch_of_compile_error compiled] at fetched
    cases fetched
  | ok params => exact ⟨params, rfl, rfl⟩

/-- Both searches fetch with the filter added and the limit one. -/
theorem asked?_of_search (search : operation = findFirst given ∨ operation = findRequired given) :
    operation.asked? relation = some (relation.query.single given) := by
  rw [Query.single_eq_forMatch]
  rcases search with rfl | rfl <;> rfl

/-- Both searches tell of the same fetch, and leave the same behind. -/
theorem perform_of_search (search : operation = findFirst given ∨ operation = findRequired given) :
    operation.perform relation store =
      (((relation.query.single given).fetch model store).1.bind (operation.told relation), relation,
        ((relation.query.single given).fetch model store).2) := by
  have loads : operation.isLoad = false := by
    rcases search with rfl | rfl <;> rfl
  rcases fetched : (relation.query.single given).fetch model store with ⟨answer, next⟩
  rw [perform_of_asked (asked?_of_search search) fetched, loads]
  rfl

theorem calls_of_search (search : operation = findFirst given ∨ operation = findRequired given) :
    operation.calls relation store = (relation.query.single given).entries model := by
  rw [calls_eq_entries, entries, asked?_of_search search]

/-- The error of the search that needs a record shows the filter of the parameters. -/
theorem told_findRequired_nil {params : FetchParams}
    (compiles : (relation.query.single given).compile model.mapping = .ok params) :
    (findRequired given).told relation [] =
      .error (.recordNotFound model.table params.filter) := by
  rw [Query.single_eq_forMatch] at compiles
  simp only [told, compiles]
  rfl

end Searches

/-- The search for a record that has to exist asks any store for the same as the search for a record
that may be missing, and leaves the relation and the store in the same state. The latter finds one
record at most, or fails. If it finds a record, so does the former, and only then; if it fails, the
former fails with the same error. If it finds nothing, the store has been asked once, and the former
fails with an error that shows the model's table and the filter that the store was asked with, if
there was one. The query for this error has been compiled before, so it compiles again. -/
theorem findRequired_agrees (relation : Relation model) (given : Filter) (store : σ) :
    let found := (findFirst given).perform relation store
    let required := (findRequired given).perform relation store
    let asked := (findFirst given).calls relation store
    ((findRequired given).calls relation store = asked ∧ required.2 = found.2) ∧
    ((∃ row?, found.1 = .ok (.atMostOne row?)) ∨ ∃ e, found.1 = .error e) ∧
    (∀ row, required.1 = .ok (.one row) ↔ found.1 = .ok (.atMostOne (some row))) ∧
    (∀ e, found.1 = .error e → required.1 = .error e) ∧
    (found.1 = .ok (.atMostOne none) → ∃ params, asked = [⟨model.tableRef, params⟩] ∧
      required.1 = .error (.recordNotFound model.table params.filter)) ∧
    ∀ rows, ((relation.query.single given).fetch model store).1 = .ok rows →
      ∃ params, (relation.query.single given).compile model.mapping = .ok params ∧
        asked = [⟨model.tableRef, params⟩] := by
  intro found required asked
  have calls : asked = (relation.query.single given).entries model := calls_of_search (.inl rfl)
  have again (rows : List α)
      (fetched : ((relation.query.single given).fetch model store).1 = .ok rows) :
      ∃ params, (relation.query.single given).compile model.mapping = .ok params ∧
        asked = [⟨model.tableRef, params⟩] :=
    calls ▸ entries_of_fetch_eq_ok fetched
  have first : found = _ := perform_of_search (.inl rfl)
  have needed : required = _ := perform_of_search (.inr rfl)
  refine ⟨⟨(calls_of_search (.inr rfl)).trans calls.symm, ?_⟩, ?_⟩
  · rw [first, needed]
  rw [first, needed]
  cases fetched : ((relation.query.single given).fetch model store).1 with
  | error e => exact ⟨.inr ⟨e, rfl⟩, fun row => ⟨nofun, nofun⟩, fun _ same => same, nofun, nofun⟩
  | ok rows =>
    obtain ⟨params, compiles, once⟩ := again rows fetched
    have known : ∀ others, (.ok rows : Except Error (List α)) = .ok others →
        ∃ params, (relation.query.single given).compile model.mapping = .ok params ∧
          asked = [⟨model.tableRef, params⟩] := fun _ _ => ⟨params, compiles, once⟩
    cases rows with
    | nil =>
      have fails : (findRequired given).told relation [] =
          .error (.recordNotFound model.table params.filter) := told_findRequired_nil compiles
      refine ⟨.inl ⟨none, rfl⟩, fun row => ⟨fun same => ?_, nofun⟩, nofun,
        fun _ => ⟨params, once, fails⟩, known⟩
      exact nomatch fails.symm.trans same
    | cons row rows =>
      refine ⟨.inl ⟨some row, rfl⟩, fun other => ?_, nofun, nofun, known⟩
      constructor
      · rintro ⟨⟩
        rfl
      · rintro ⟨⟩
        rfl

/-- No record matches, so the search fails with the text that the store was asked with. -/
theorem findRequired_agrees_of_nothing :
    let model : Model (Option String) :=
      { table := "Users", ofRecord := fun record => .ok record.id }
    let store := CannedStore.ofRecords []
    let relation : Relation model := Relation.all.limit 3
    let given := Filter.raw "\x7bName\x7d = 'Ada'"
    ((findFirst given).perform relation store).1 = .ok (.atMostOne none) ∧
      (findFirst given).calls relation store =
        [⟨model.tableRef, { filter := some "\x7bName\x7d = 'Ada'", maxRecords := some 1 }⟩] ∧
      ((findRequired given).perform relation store).1 =
        .error (.recordNotFound "Users" (some "\x7bName\x7d = 'Ada'")) := by
  intro model store relation given
  have nothing : ((findFirst given).perform relation store).1 = .ok (.atMostOne none) := rfl
  have asked : (findFirst given).calls relation store =
      [⟨model.tableRef, { filter := some "\x7bName\x7d = 'Ada'", maxRecords := some 1 }⟩] := rfl
  obtain ⟨_, _, _, _, fails, _⟩ := findRequired_agrees relation given store
  obtain ⟨params, once, shown⟩ := fails nothing
  rw [asked] at once
  cases once
  exact ⟨nothing, asked, shown⟩

end Terminal

end TableQuery
