import TableQuery.Formula.Compile
import TableQuery.Model.Basic
import TableQuery.OrderBy

/-!
# Queries

A query accumulates conditions, sort keys, a limit and an offset. Conditions and sort keys add up in
the order in which they are given; a limit or an offset replaces an earlier one. Compilation finds
the columns and gives the parameters of a fetch.

The operations that look at one end of a query, or for a single record, stand for queries of their
own: `firstPage`, `lastPage` and `single`.
-/

namespace TableQuery

structure Query where
  conditions : List Condition := []
  order : List OrderBy := []
  limit : Option UInt64 := none
  offset : Option UInt64 := none

namespace Query

/-- The query for every record. -/
def all : Query := {}

instance : Inhabited Query := ⟨all⟩

/-! ## Refinement -/

/-- Adds the condition of a filter, if it restricts anything. -/
def addFilter (query : Query) (filter : Filter) : Query :=
  match filter.condition? with
  | some condition => { query with conditions := query.conditions ++ [condition] }
  | none => query

def addOrder (query : Query) (keys : List OrderBy) : Query :=
  { query with order := query.order ++ keys }

theorem addFilter_of_none {query : Query} {filter : Filter} (trivial : filter.condition? = none) :
    query.addFilter filter = query := by
  rw [addFilter, trivial]

theorem addFilter_of_some {query : Query} {filter : Filter} {condition : Condition}
    (contributes : filter.condition? = some condition) :
    query.addFilter filter = { query with conditions := query.conditions ++ [condition] } := by
  rw [addFilter, contributes]

def setLimit (query : Query) (n : UInt64) : Query := { query with limit := some n }

def setOffset (query : Query) (n : UInt64) : Query := { query with offset := some n }

/-! ## Compilation -/

/-- The parameters of the query. Faults of conditions come before faults of sort keys. -/
def compile (query : Query) (mapping : FieldMapping) : Except Error FetchParams := do
  let filter ← Formula.filterText mapping query.conditions
  let sort ← query.order.mapM (OrderBy.compile mapping)
  return { filter, sort, maxRecords := query.limit, offset := query.offset }

/-! ## Ends and single records -/

/-- Up to `n` records from the start. A query without order is sorted by the creation time, if there
is an attribute for it; a smaller limit stays. -/
def firstPage (query : Query) (createdField : Option String) (n : UInt64) : Query :=
  { query with
    order := if query.order.isEmpty then (createdField.map OrderBy.asc).toList else query.order
    limit := some ((query.limit.map (min · n)).getD n) }

/-- The query sorted the other way round. -/
def reversed (query : Query) : Query := { query with order := query.order.map OrderBy.reversed }

/-- Up to `n` records from the end, the last one first. -/
def lastPage (query : Query) (n : UInt64) : Query := query.reversed.setLimit n

/-- A single record that meets a filter. -/
def single (query : Query) (filter : Filter) : Query := (query.addFilter filter).setLimit 1

/-! ## Fetching -/

variable {α σ : Type} [Store σ]

/-- Fetches the records of a query and makes instances of them. The store is not asked if the query
does not compile; the first record without an instance fails the whole. -/
def fetch (query : Query) (model : Model α) (store : σ) : Except Error (List α) × σ :=
  match query.compile model.mapping with
  | .error e => (.error e, store)
  | .ok params =>
    match Store.fetch model.tableRef params store with
    | (.error e, store) => (.error e, store)
    | (.ok records, store) => (records.mapM model.ofRecord, store)

/-- A query that does not compile never reaches the store. -/
theorem fetch_of_compile_error {query : Query} {model : Model α} {e : Error}
    (fails : query.compile model.mapping = .error e) (store : σ) :
    query.fetch model store = (.error e, store) := by
  rw [fetch, fails]

/-- A failure of the store is passed on as it is. -/
theorem fetch_of_store_error {query : Query} {model : Model α} {params : FetchParams} {e : Error}
    {store next : σ} (compiles : query.compile model.mapping = .ok params)
    (fails : Store.fetch model.tableRef params store = (.error e, next)) :
    query.fetch model store = (.error e, next) := by
  rw [fetch, compiles]
  simp only [fails]

/-- The instances of a fetch are those of its records, one for one. -/
theorem fetch_of_records {query : Query} {model : Model α} {params : FetchParams}
    {records : List Record} {store next : σ} (compiles : query.compile model.mapping = .ok params)
    (answers : Store.fetch model.tableRef params store = (.ok records, next)) :
    query.fetch model store = (records.mapM model.ofRecord, next) := by
  rw [fetch, compiles]
  simp only [answers]

/-- Up to `n` instances from the start. -/
def firstN (query : Query) (model : Model α) (n : UInt64) (store : σ) :
    Except Error (List α) × σ :=
  if n = 0 then (.ok [], store)
  else (query.firstPage model.createdField n).fetch model store

/-- The last `n` items of a list. -/
def takeLast (n : UInt64) (items : List α) : List α := items.drop (items.length - n.toNat)

/-- A query's end can be reached by sorting it the other way round: it has an order, and neither a
limit nor an offset that such a fetch would step out of. -/
def isReversible (query : Query) : Bool :=
  !query.order.isEmpty && query.limit.isNone && query.offset.isNone

/-- Up to `n` instances from the end, in the query's order. A query that is not reversible is
fetched as it is and cut to its tail. -/
def lastN (query : Query) (model : Model α) (n : UInt64) (store : σ) :
    Except Error (List α) × σ :=
  if n = 0 then (.ok [], store)
  else if query.isReversible then
    let (rows, store) := (query.lastPage n).fetch model store
    (rows.map List.reverse, store)
  else
    let (rows, store) := query.fetch model store
    (rows.map (takeLast n), store)

def first (query : Query) (model : Model α) (store : σ) : Except Error (Option α) × σ :=
  let (rows, store) := query.firstN model 1 store
  (rows.map List.head?, store)

def last (query : Query) (model : Model α) (store : σ) : Except Error (Option α) × σ :=
  let (rows, store) := query.lastN model 1 store
  (rows.map List.getLast?, store)

/-- The first instance that meets a filter. -/
def findFirst (query : Query) (model : Model α) (filter : Filter) (store : σ) :
    Except Error (Option α) × σ :=
  let (rows, store) := (query.single filter).fetch model store
  (rows.map List.head?, store)

/-- The first instance that meets a filter, which has to exist. The error shows the filter that was
fetched with. -/
def findRequired (query : Query) (model : Model α) (filter : Filter) (store : σ) :
    Except Error α × σ :=
  let single := query.single filter
  let (rows, store) := single.fetch model store
  let found := do
    match ← rows with
    | row :: _ => return row
    | [] =>
      let params ← single.compile model.mapping
      throw (.recordNotFound model.table params.filter)
  (found, store)

end Query

end TableQuery
