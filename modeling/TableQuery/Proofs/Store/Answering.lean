import Mathlib.Logic.Relation
import TableQuery.Proofs.Query.Fetching
import TableQuery.Proofs.Relation.Load
import TableQuery.Store.Canned

/-!
# Stores that answer by table and parameters

A store may change with every fetch. One that `Answers` by a function gives the same answer to the
same question all the same, whatever it has been asked before. Then the fetch of a query gives what
`Query.answered` says, in every state that fetches lead to. The canned store is of this kind as long
as its records are not replaced.

If the store also `CutsWindow`, a query with a lower limit gets the front of what the query gets:
`Query.answered_setLimit`.
-/

namespace TableQuery

/-- What a store says to the parameters of a fetch from a table. -/
abbrev Answer := TableRef → FetchParams → Except Error (List Record)

namespace Store

variable {σ : Type} [Store σ]

/-- A fetch takes the store from one state to the next. -/
def Fetched (store next : σ) : Prop :=
  ∃ table params, next = (Store.fetch table params store).2

/-- Fetches take the store from one state to the other. -/
abbrev Leads : σ → σ → Prop := Relation.ReflTransGen Fetched

/-- The store answers by this function, however it has been asked before. -/
def Answers (store : σ) (answer : Answer) : Prop :=
  ∀ later, Leads store later → ∀ table params, (Store.fetch table params later).1 = answer table params

theorem Answers.later {store later : σ} {answer : Answer} (answers : Answers store answer)
    (leads : Leads store later) : Answers later answer :=
  fun _ further => answers _ (leads.trans further)

/-- More than so many records are never answered: a bound cuts the answer behind a prefix. -/
def CutsPrefix (answer : Answer) : Prop :=
  ∀ table params records n, params.maxRecords = none → answer table params = .ok records →
    answer table { params with maxRecords := some n } = .ok (records.take n.toNat)

/-- The table, the filter and the sort keys decide which records match and in which order. The offset
and the greatest number of records only cut out a window of them. -/
def CutsWindow (answer : Answer) : Prop :=
  ∃ matching : TableRef → Option String → List SortField → Except Error (List Record),
    ∀ table params,
      answer table params = (matching table params.filter params.sort).map params.window

end Store

/-! ## Windows -/

section Windows

variable {params : FetchParams} {answer : Answer} {n : UInt64}

/-- A lower bound keeps the front of a window. -/
theorem FetchParams.window_of_lower (lower : ∀ own ∈ params.maxRecords, n ≤ own) {α : Type}
    (records : List α) :
    { params with maxRecords := some n }.window records = (params.window records).take n.toNat := by
  unfold window
  cases bound : params.maxRecords with
  | none => rfl
  | some own =>
    have least : n.toNat ≤ own.toNat := UInt64.le_iff_toNat_le.1 (lower own bound)
    dsimp only
    rw [List.take_take, Nat.min_eq_left least]

theorem Store.CutsWindow.answer_of_lower (cuts : CutsWindow answer) {table : TableRef}
    {records : List Record} (given : answer table params = .ok records)
    (lower : ∀ own ∈ params.maxRecords, n ≤ own) :
    answer table { params with maxRecords := some n } = .ok (records.take n.toNat) := by
  obtain ⟨matching, cut⟩ := cuts
  rw [cut] at given ⊢
  obtain ⟨matched, found, rfl⟩ := map_eq_ok.1 given
  rw [found, ← FetchParams.window_of_lower lower]
  rfl

theorem Store.CutsWindow.cutsPrefix (cuts : CutsWindow answer) : CutsPrefix answer := by
  intro table params records n unbounded given
  refine cuts.answer_of_lower given ?_
  intro own bound
  rw [unbounded] at bound
  cases bound

end Windows

namespace Query

variable {α σ : Type} [Store σ] {query : Query} {model : Model α} {store : σ} {answer : Answer}
  {rows : List α}

/-- What the fetch of a query gets from a store with these answers. -/
def answered (query : Query) (model : Model α) (answer : Answer) : Except Error (List α) := do
  let params ← query.compile model.mapping
  let records ← answer model.tableRef params
  records.mapM model.ofRecord

theorem fetch_of_answers (answers : Store.Answers store answer) (query : Query) :
    (query.fetch model store).1 = query.answered model answer := by
  cases compiled : query.compile model.mapping with
  | error e =>
    rw [fetch_of_compile_error compiled, answered, compiled]
    rfl
  | ok params =>
    have asked := answers store .refl model.tableRef params
    have said : query.answered model answer =
        (answer model.tableRef params >>= fun records => records.mapM model.ofRecord) := by
      rw [answered, compiled]
      rfl
    rw [said, ← asked]
    rcases fetched : Store.fetch model.tableRef params store with ⟨e | records, next⟩
    · rw [fetch_of_store_error compiled fetched]
      rfl
    · rw [fetch_of_records compiled fetched]
      rfl

theorem answered_eq_ok :
    query.answered model answer = .ok rows ↔
      ∃ params records, query.compile model.mapping = .ok params ∧
        answer model.tableRef params = .ok records ∧
        List.Forall₂ (fun record row => model.ofRecord record = .ok row) records rows := by
  rw [answered, bind_eq_ok]
  constructor
  · intro answered
    obtain ⟨params, compiles, answered⟩ := answered
    obtain ⟨records, given, made⟩ := bind_eq_ok.1 answered
    exact ⟨params, records, compiles, given, mapM_eq_ok.1 made⟩
  · intro stages
    obtain ⟨params, records, compiles, given, made⟩ := stages
    exact ⟨params, compiles, bind_eq_ok.2 ⟨records, given, mapM_eq_ok.2 made⟩⟩

theorem compile_setLimit {mapping : FieldMapping} {params : FetchParams} (n : UInt64)
    (compiles : query.compile mapping = .ok params) :
    (query.setLimit n).compile mapping = .ok { params with maxRecords := some n } := by
  obtain ⟨written, sorted, _, offset⟩ := compile_eq_ok.1 compiles
  exact compile_eq_ok.2 ⟨written, sorted, rfl, offset⟩

/-- A query with a lower limit gets the front of what the query gets. -/
theorem answered_setLimit {n : UInt64} (cuts : Store.CutsWindow answer)
    (all : query.answered model answer = .ok rows) (lower : ∀ own ∈ query.limit, n ≤ own) :
    (query.setLimit n).answered model answer = .ok (rows.take n.toNat) := by
  obtain ⟨params, records, compiles, given, made⟩ := answered_eq_ok.1 all
  have bound : params.maxRecords = query.limit := (compile_eq_ok.1 compiles).2.2.1
  have front := cuts.answer_of_lower given (bound ▸ lower)
  exact answered_eq_ok.2 ⟨_, _, compile_setLimit n compiles, front, List.forall₂_take n.toNat made⟩

theorem length_le_of_answered {own : UInt64} (cuts : Store.CutsWindow answer)
    (all : query.answered model answer = .ok rows) (limited : query.limit = some own) :
    rows.length ≤ own.toNat := by
  have same : query.setLimit own = query := by
    rw [setLimit, ← limited]
  have front : (query.setLimit own).answered model answer = .ok (rows.take own.toNat) := by
    refine answered_setLimit cuts all ?_
    intro other known
    cases limited.symm.trans known
    exact UInt64.le_refl own
  rw [same, all] at front
  have lengths := congrArg List.length (Except.ok.inj front)
  rw [List.length_take] at lengths
  omega

end Query

/-! ## Loads -/

namespace Relation

variable {α σ : Type} [Store σ] {model : Model α} {relation : Relation model} {store : σ}
  {answer : Answer} {rows : List α}

/-- What the relation has loaded, if anything, is what a store with these answers gives. -/
def Current (relation : Relation model) (answer : Answer) : Prop :=
  ∀ rows, relation.loaded = some rows → relation.query.answered model answer = .ok rows

theorem current_ofQuery (query : Query) : (ofQuery query : Relation model).Current answer := by
  intro rows loaded
  cases loaded

theorem Current.answered_of_load (current : relation.Current answer)
    (answers : Store.Answers store answer) (loads : (relation.load store).1 = .ok rows) :
    relation.query.answered model answer = .ok rows := by
  cases loaded : relation.loaded with
  | some held =>
    rw [load_of_loaded loaded] at loads
    cases loads
    exact current rows loaded
  | none =>
    rw [load_of_unloaded loaded, Query.fetch_of_answers answers] at loads
    exact loads

/-- Loads from the store keep a relation current. -/
theorem Current.load (current : relation.Current answer) (answers : Store.Answers store answer) :
    (relation.load store).2.1.Current answer := by
  intro rows loaded
  cases held : relation.loaded with
  | some others =>
    rw [load_of_loaded held] at loaded ⊢
    exact current rows loaded
  | none =>
    rw [load_of_unloaded held] at loaded ⊢
    rw [← Query.fetch_of_answers answers]
    exact toOption_eq_some.1 loaded

end Relation

/-! ## The canned store -/

namespace CannedStore

/-- The log is all that fetches change. -/
theorem answer_of_leads {store later : CannedStore} (leads : Store.Leads store later) :
    later.answer = store.answer := by
  induction leads with
  | refl => rfl
  | tail _ fetched ih =>
    obtain ⟨table, params, rfl⟩ := fetched
    exact ih

theorem answers (store : CannedStore) : Store.Answers store fun _ => store.answer := by
  intro later leads table params
  rw [fetch_eq, answer_of_leads leads]

/-- Without a failure, the canned store has every record match. -/
theorem cutsWindow (store : CannedStore) : Store.CutsWindow fun _ => store.answer := by
  cases failing : store.failure with
  | some failure =>
    exact ⟨fun _ _ _ => .error (.store failure.1 failure.2 none),
      fun _ => answer_of_failing failing⟩
  | none => exact ⟨fun _ _ _ => .ok store.records, fun _ => answer_of_working failing⟩

end CannedStore

end TableQuery
