import TableQuery.Proofs.Loading.Sequential
import TableQuery.Store.Canned

/-!
# The log of the canned store

A fetch leaves nothing but an entry in the log of the canned store, and none if its query does not
compile; its answer does not depend on the log. So this store keeps to its answers, and the loads of
a relation are accounted for by the fetches that they stand for.
-/

namespace TableQuery

/-- The store with these entries at the end of its log. -/
def CannedStore.logged (store : CannedStore) (entries : List FetchCall) : CannedStore :=
  { store with calls := store.calls ++ entries }

@[simp]
theorem CannedStore.logged_nil (store : CannedStore) : store.logged [] = store := by
  simp [logged]

@[simp]
theorem CannedStore.logged_logged (store : CannedStore) (first second : List FetchCall) :
    (store.logged first).logged second = store.logged (first ++ second) := by
  simp [logged]

variable {α : Type} {model : Model α}

namespace Query

/-- The entry that a fetch of the query leaves, if the query compiles. -/
def entries (query : Query) (model : Model α) : List FetchCall :=
  match query.compile model.mapping with
  | .ok params => [⟨model.tableRef, params⟩]
  | .error _ => []

/-- A fetch answers the same whatever the log tells, and leaves its entry there. -/
theorem fetch_logged (query : Query) (store : CannedStore) (log : List FetchCall) :
    query.fetch model (store.logged log) =
      ((query.fetch model store).1, store.logged (log ++ query.entries model)) := by
  unfold fetch entries
  cases query.compile model.mapping with
  | error e => simp only [List.append_nil]
  | ok params =>
    have unlogged : (store.logged log).answer params = store.answer params := rfl
    have entered : (store.logged log).log model.tableRef params =
        store.logged (log ++ [⟨model.tableRef, params⟩]) := CannedStore.logged_logged ..
    simp only [CannedStore.fetch_eq, unlogged, entered]
    cases store.answer params <;> rfl

theorem fetch_store (query : Query) (store : CannedStore) :
    (query.fetch model store).2 = store.logged (query.entries model) := by
  have logged : query.fetch model (store.logged []) = _ := query.fetch_logged store []
  rw [CannedStore.logged_nil, List.nil_append] at logged
  rw [logged]

/-- The canned store gives a query one answer, however often it is asked. -/
theorem fetch_steady (query : Query) (store : CannedStore) :
    Steady (query.fetch model) store (query.fetch model store).1 := by
  have logs (n : Nat) : ∃ log, (Prod.snd ∘ query.fetch model)^[n] store = store.logged log := by
    induction n with
    | zero => exact ⟨[], (CannedStore.logged_nil store).symm⟩
    | succ n ih =>
      rcases ih with ⟨log, same⟩
      refine ⟨log ++ query.entries model, ?_⟩
      rw [Function.iterate_succ_apply', same, Function.comp_apply, fetch_logged]
  intro n
  rcases logs n with ⟨log, same⟩
  rw [same, fetch_logged]

end Query

/-! ## Loads -/

/-- The instances that a fetch would get now, if it succeeded. -/
def Query.fetched? (query : Query) (model : Model α) (store : CannedStore) : Option (List α) :=
  (query.fetch model store).1.toOption

theorem Query.fetched?_logged (query : Query) (store : CannedStore) (log : List FetchCall) :
    query.fetched? model (store.logged log) = query.fetched? model store := by
  rw [fetched?, fetch_logged, fetched?]

namespace Relation

/-- The relation with other loaded instances, or with none. -/
def withLoaded (relation : Relation model) (loaded : Option (List α)) : Relation model :=
  { relation with loaded }

@[simp]
theorem withLoaded_loaded (relation : Relation model) :
    relation.withLoaded relation.loaded = relation := by
  cases relation
  rfl

/-- The entry that a load leaves. -/
def loadEntries (relation : Relation model) : List FetchCall :=
  if relation.isLoaded then [] else relation.query.entries model

/-- The entries that so many loads leave, one after the other. -/
def loadLog (relation : Relation model) : Nat → CannedStore → List FetchCall
  | 0, _ => []
  | n + 1, store =>
    relation.loadEntries ++ (relation.load store).2.1.loadLog n (relation.load store).2.2

/-- A load leaves its entry in the log, and in the relation what it had or has got. -/
theorem load_canned (relation : Relation model) (store : CannedStore) :
    (relation.load store).2 =
      (relation.withLoaded (relation.loaded <|> relation.query.fetched? model store),
        store.logged relation.loadEntries) := by
  rcases relation with ⟨query, loaded⟩
  cases loaded with
  | some rows =>
    rw [load_of_loaded rfl]
    exact congrArg (Prod.mk _) (CannedStore.logged_nil store).symm
  | none =>
    rw [load_of_unloaded rfl, Query.fetch_store]
    rfl

theorem loadTimes_canned (relation : Relation model) (n : Nat) (store : CannedStore) :
    (relation.loadTimes n store).2 =
      (relation.withLoaded
          (relation.loaded <|> if n = 0 then none else relation.query.fetched? model store),
        store.logged (relation.loadLog n store)) := by
  induction n generalizing relation store with
  | zero => simp [loadTimes, loadLog]
  | succ n ih =>
    have rest : (relation.loadTimes (n + 1) store).2 =
        ((relation.load store).2.1.loadTimes n (relation.load store).2.2).2 := rfl
    have kept : (relation.withLoaded
          (relation.loaded <|> relation.query.fetched? model store)).loaded =
        (relation.loaded <|> relation.query.fetched? model store) := rfl
    rw [rest, ih, loadLog, load_canned, kept, CannedStore.logged_logged,
      if_neg (Nat.succ_ne_zero n)]
    refine Prod.ext ?_ rfl
    refine congrArg relation.withLoaded ?_
    have again : (relation.withLoaded
          (relation.loaded <|> relation.query.fetched? model store)).query.fetched? model
          (store.logged relation.loadEntries) = relation.query.fetched? model store :=
      Query.fetched?_logged ..
    rw [again]
    cases relation.loaded <;> cases relation.query.fetched? model store <;> simp

theorem loadConcurrently_canned (relation : Relation model) (calls : Nat) (store : CannedStore) :
    relation.loadConcurrently calls store = relation.loadTimes calls store :=
  loadConcurrently_eq_loadTimes (relation.query.fetch_steady store) calls

end Relation

end TableQuery
