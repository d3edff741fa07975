import TableQuery.Store.Basic

/-!
# The canned store

A store in memory with a fixed list of records. It applies the offset and the greatest number of
records, but neither filters nor sorts. Every fetch is logged first, also one that fails; while a
failure is set, every fetch fails with it.
-/

namespace TableQuery

/-- One fetch that a store received. -/
structure FetchCall where
  table : TableRef
  params : FetchParams
  deriving DecidableEq, Repr

structure CannedStore where
  records : List Record := []
  /-- The fetches received, the oldest first. -/
  calls : List FetchCall := []
  failure : Option (StoreFault × String) := none

namespace CannedStore

instance : Inhabited CannedStore := ⟨{}⟩

def ofRecords (records : List Record) : CannedStore := { records }

/-- Serves other records from now on. -/
def setRecords (store : CannedStore) (records : List Record) : CannedStore := { store with records }

/-- Fails from now on. -/
def failWith (store : CannedStore) (fault : StoreFault) (text : String) : CannedStore :=
  { store with failure := some (fault, text) }

/-- No longer fails. -/
def recover (store : CannedStore) : CannedStore := { store with failure := none }

/-- The store with one more fetch in its log. -/
def log (store : CannedStore) (table : TableRef) (params : FetchParams) : CannedStore :=
  { store with calls := store.calls ++ [⟨table, params⟩] }

/-- What the store answers to a fetch. -/
def answer (store : CannedStore) (params : FetchParams) : Except Error (List Record) :=
  match store.failure with
  | some (fault, text) => .error (.store fault text none)
  | none => .ok (params.window store.records)

instance : Store CannedStore where
  fetch table params store := (store.answer params, store.log table params)

theorem fetch_eq (table : TableRef) (params : FetchParams) (store : CannedStore) :
    Store.fetch table params store = (store.answer params, store.log table params) := rfl

theorem answer_of_failing {store : CannedStore} {fault : StoreFault} {text : String}
    (failing : store.failure = some (fault, text)) (params : FetchParams) :
    store.answer params = .error (.store fault text none) := by
  rw [answer, failing]

theorem answer_of_working {store : CannedStore} (working : store.failure = none)
    (params : FetchParams) : store.answer params = .ok (params.window store.records) := by
  rw [answer, working]

/-- The parameters of the latest fetch. -/
def lastParams? (store : CannedStore) : Option FetchParams := (store.calls.getLast?).map (·.params)

end CannedStore

end TableQuery
