import TableQuery.Proofs.Outcome
import TableQuery.Query

/-!
# Fetches stage by stage

A query compiles if its conditions and its sort keys do, and each part of the parameters comes from
its own part of the query (`Query.compile_eq_ok`).

A fetch has three stages: the query is compiled, the store answers, and an instance is made of every
record. `Query.Ends` tells how a fetch ends in terms of these stages alone, and `Query.ends_iff` that
there is one end for every query and store. The first stage that fails decides; of the records that
have no instance, the earliest one does.
-/

namespace TableQuery

namespace Query

/-! ## Compilation -/

theorem compile_eq_ok {query : Query} {mapping : FieldMapping} {params : FetchParams} :
    query.compile mapping = .ok params ↔
      Formula.filterText mapping query.conditions = .ok params.filter ∧
        query.order.mapM (OrderBy.compile mapping) = .ok params.sort ∧
        params.maxRecords = query.limit ∧ params.offset = query.offset := by
  rw [compile, bind_eq_ok]
  constructor
  · intro compiled
    obtain ⟨filter, written, compiles⟩ := compiled
    obtain ⟨sort, sorted, same⟩ := bind_eq_ok.1 compiles
    cases same
    exact ⟨written, sorted, rfl, rfl⟩
  · intro parts
    obtain ⟨written, sorted, limit, offset⟩ := parts
    refine ⟨params.filter, written, bind_eq_ok.2 ⟨params.sort, sorted, ?_⟩⟩
    rw [← limit, ← offset]
    rfl

/-! ## Ends -/

variable {α σ : Type} [Store σ] {query : Query} {model : Model α} {store next : σ}
  {answer : Except Error (List α)}

/-- The end of a fetch: what it gives, and the state in which it leaves the store. -/
inductive Ends (query : Query) (model : Model α) (store : σ) : Except Error (List α) → σ → Prop
  /-- The query does not compile, and the store is not asked. -/
  | uncompiled {e : Error} (fault : query.compile model.mapping = .error e) :
    Ends query model store (.error e) store
  /-- The store fails; its error is passed on as it is. -/
  | refused {params : FetchParams} {e : Error} {next : σ}
    (compiles : query.compile model.mapping = .ok params)
    (refuses : Store.fetch model.tableRef params store = (.error e, next)) :
    Ends query model store (.error e) next
  /-- A record has no instance, and all records before it have one. -/
  | unconverted {params : FetchParams} {before behind : List Record} {bad : Record} {e : Error}
    {next : σ} (compiles : query.compile model.mapping = .ok params)
    (answers : Store.fetch model.tableRef params store = (.ok (before ++ bad :: behind), next))
    (converts : ∀ record ∈ before, ∃ row, model.ofRecord record = .ok row)
    (fault : model.ofRecord bad = .error e) :
    Ends query model store (.error e) next
  /-- Every record has an instance. -/
  | converted {params : FetchParams} {records : List Record} {rows : List α} {next : σ}
    (compiles : query.compile model.mapping = .ok params)
    (answers : Store.fetch model.tableRef params store = (.ok records, next))
    (convert : List.Forall₂ (fun record row => model.ofRecord record = .ok row) records rows) :
    Ends query model store (.ok rows) next

/-- Every fetch comes to one of these ends. -/
theorem fetch_ends (query : Query) (model : Model α) (store : σ) :
    query.Ends model store (query.fetch model store).1 (query.fetch model store).2 := by
  cases compiled : query.compile model.mapping with
  | error e =>
    rw [fetch_of_compile_error compiled]
    exact .uncompiled compiled
  | ok params =>
    rcases answered : Store.fetch model.tableRef params store with ⟨e | records, next⟩
    · rw [fetch_of_store_error compiled answered]
      exact .refused compiled answered
    · rw [fetch_of_records compiled answered]
      cases made : records.mapM model.ofRecord with
      | error e =>
        obtain ⟨before, bad, behind, rfl, converts, fault⟩ := mapM_eq_error.1 made
        exact .unconverted compiled answered converts fault
      | ok rows => exact .converted compiled answered (mapM_eq_ok.1 made)

/-- A fetch comes to no other end. -/
theorem Ends.fetch_eq (ends : query.Ends model store answer next) :
    query.fetch model store = (answer, next) := by
  cases ends with
  | uncompiled fault => exact fetch_of_compile_error fault store
  | refused compiles refuses => exact fetch_of_store_error compiles refuses
  | unconverted compiles answers converts fault =>
    rw [fetch_of_records compiles answers, mapM_eq_error.2 ⟨_, _, _, rfl, converts, fault⟩]
  | converted compiles answers convert =>
    rw [fetch_of_records compiles answers, mapM_eq_ok.2 convert]

theorem ends_iff : query.Ends model store answer next ↔ query.fetch model store = (answer, next) := by
  constructor
  · exact Ends.fetch_eq
  · intro same
    have ends := query.fetch_ends model store
    rwa [same] at ends

end Query

end TableQuery
