import TableQuery.Proofs.Store.Answering

/-!
# Reading page by page

A relation can be read in pages of a fixed size, each by a load of its own, until a page is shorter
than that: `Relation.Paged`. With a store that answers by table and parameters and cuts a window out
of what matches, this gives all that the relation matches, each record once and in order:
`Relation.pagesTo_iff`. The canned store is of this kind, and every record matches there:
`CannedStore.pages_tile`. Its windows are told by the positions that they cover.
-/

namespace TableQuery

/-! ## Windows by position -/

section Positions

variable {α : Type} {p : Nat → Prop} [DecidablePred p] {first : Nat} {items : List α}

/-- The items at the positions with a property, in their order; positions count from `first`. -/
def itemsAt (p : Nat → Prop) [DecidablePred p] (first : Nat) (items : List α) : List α :=
  ((items.zipIdx first).filter fun entry => p entry.2).map Prod.fst

theorem itemsAt_append (others : List α) :
    itemsAt p first (items ++ others) =
      itemsAt p first items ++ itemsAt p (first + items.length) others := by
  rw [itemsAt, List.zipIdx_append, List.filter_append, List.map_append]
  rfl

theorem itemsAt_of_none (none : ∀ i, first ≤ i → i < first + items.length → ¬p i) :
    itemsAt p first items = [] := by
  rw [itemsAt, List.map_eq_nil_iff, List.filter_eq_nil_iff]
  intro entry member
  obtain ⟨low, high, _⟩ := List.mem_zipIdx member
  simpa using none entry.2 low high

theorem itemsAt_of_all (all : ∀ i, first ≤ i → i < first + items.length → p i) :
    itemsAt p first items = items := by
  rw [itemsAt, List.filter_eq_self.2, List.zipIdx_map_fst]
  intro entry member
  obtain ⟨low, high, _⟩ := List.mem_zipIdx member
  simpa using all entry.2 low high

end Positions

namespace FetchParams

/-- The position at which the window begins. -/
def start (params : FetchParams) : Nat := (params.offset.map UInt64.toNat).getD 0

/-- The position is in the window: not before the start, and before the end if there is one. -/
def Covers (params : FetchParams) (position : Nat) : Prop :=
  params.start ≤ position ∧ ∀ n ∈ params.maxRecords, position < params.start + n.toNat

instance (params : FetchParams) : DecidablePred params.Covers :=
  fun _ => inferInstanceAs (Decidable (_ ∧ _))

theorem covers_of_unbounded {params : FetchParams} (unbounded : params.maxRecords = none)
    {position : Nat} : params.Covers position ↔ params.start ≤ position := by
  simp [Covers, unbounded]

theorem covers_of_bounded {params : FetchParams} {n : UInt64} (bounded : params.maxRecords = some n)
    {position : Nat} :
    params.Covers position ↔ params.start ≤ position ∧ position < params.start + n.toNat := by
  simp [Covers, bounded]

theorem window_eq_itemsAt {α : Type} (params : FetchParams) (items : List α) :
    params.window items = itemsAt params.Covers 0 items := by
  have skipped : itemsAt params.Covers 0 items =
      itemsAt params.Covers (items.take params.start).length (items.drop params.start) := by
    conv_lhs => rw [← List.take_append_drop params.start items]
    rw [itemsAt_append, Nat.zero_add, itemsAt_of_none, List.nil_append]
    intro i _ before covered
    have started := covered.1
    rw [List.length_take] at before
    omega
  cases bound : params.maxRecords with
  | none =>
    have whole : params.window items = items.drop params.start := by
      rw [window, bound]
      rfl
    rw [whole, skipped, itemsAt_of_all]
    intro i low high
    refine (covers_of_unbounded bound).2 ?_
    rw [List.length_take] at low high
    rw [List.length_drop] at high
    omega
  | some n =>
    have front : params.window items = (items.drop params.start).take n.toNat := by
      rw [window, bound]
      rfl
    have cut := List.take_append_drop n.toNat (items.drop params.start)
    conv_rhs => rw [skipped, ← cut, itemsAt_append]
    rw [front, itemsAt_of_all, itemsAt_of_none, List.append_nil]
    · intro i low high covered
      have ended := ((covers_of_bounded bound).1 covered).2
      simp only [List.length_take, List.length_drop] at low high
      omega
    · intro i low high
      refine (covers_of_bounded bound).2 ?_
      simp only [List.length_take, List.length_drop] at low high
      omega

theorem window_of_unbounded {α : Type} {params : FetchParams} (unlimited : params.maxRecords = none)
    (unskipped : params.offset = none) (items : List α) : params.window items = items := by
  rw [window, unlimited, unskipped]
  rfl

end FetchParams

/-! ## Pages of a query -/

namespace Query

variable {α σ : Type} [Store σ] {model : Model α} {answer : Answer} {store : σ}

/-- The query without its limit and its offset. -/
def unbounded (query : Query) : Query := { query with limit := none, offset := none }

/-- The limit and the offset of a query are only put into the parameters. -/
theorem compile_eq_unbounded (query : Query) (mapping : FieldMapping) :
    query.compile mapping = (query.unbounded.compile mapping).map fun params =>
      { params with maxRecords := query.limit, offset := query.offset } := by
  have conditions : query.unbounded.conditions = query.conditions := rfl
  have order : query.unbounded.order = query.order := rfl
  rw [compile, compile, conditions, order]
  cases Formula.filterText mapping query.conditions with
  | error e => rfl
  | ok filter => cases query.order.mapM (OrderBy.compile mapping) <;> rfl

/-- The records that a query matches, wherever its limit and its offset would cut them. -/
def matched (query : Query) (model : Model α) (answer : Answer) : Except Error (List Record) := do
  let params ← query.unbounded.compile model.mapping
  answer model.tableRef params

/-- A page gets the records that are matched at its positions. -/
theorem answered_page (cuts : Store.CutsWindow answer) (query : Query) (size offset : UInt64) :
    ((query.setOffset offset).setLimit size).answered model answer =
      (query.matched model answer >>= fun records =>
        ((records.drop offset.toNat).take size.toNat).mapM model.ofRecord) := by
  have same : ((query.setOffset offset).setLimit size).unbounded = query.unbounded := rfl
  rw [answered, matched, compile_eq_unbounded, same]
  cases compiled : query.unbounded.compile model.mapping with
  | error e => rfl
  | ok params =>
    obtain ⟨_, _, unlimited, unskipped⟩ := compile_eq_ok.1 compiled
    obtain ⟨matching, cut⟩ := cuts
    let found := matching model.tableRef params.filter params.sort
    have page : answer model.tableRef
          { params with maxRecords := some size, offset := some offset } =
        found.map fun records => (records.drop offset.toNat).take size.toNat := cut ..
    have whole : answer model.tableRef params = found.map id := by
      rw [cut, funext (FetchParams.window_of_unbounded unlimited unskipped)]
      rfl
    calc
      (answer model.tableRef { params with maxRecords := some size, offset := some offset } >>=
          fun records => records.mapM model.ofRecord) =
          (found.map (fun records => (records.drop offset.toNat).take size.toNat) >>=
            fun records => records.mapM model.ofRecord) := by rw [page]
      _ = (found.map id >>= fun records =>
            ((records.drop offset.toNat).take size.toNat).mapM model.ofRecord) := by
          cases found <;> rfl
      _ = (answer model.tableRef params >>= fun records =>
            ((records.drop offset.toNat).take size.toNat).mapM model.ofRecord) := by rw [whole]

theorem leads_fetch (query : Query) (store : σ) :
    Store.Leads store (query.fetch model store).2 := by
  cases compiled : query.compile model.mapping with
  | error e =>
    rw [fetch_of_compile_error compiled]
  | ok params =>
    refine .single ⟨model.tableRef, params, ?_⟩
    rcases fetched : Store.fetch model.tableRef params store with ⟨e | records, next⟩
    · rw [fetch_of_store_error compiled fetched]
    · rw [fetch_of_records compiled fetched]

end Query

/-! ## Pages of a relation -/

namespace Relation

variable {α σ : Type} [Store σ] {model : Model α} {relation after : Relation model}
  {size offset : UInt64} {store next : σ} {answer : Answer} {outcome : Except Error (List α)}
  {rows : List α} {e : Error}

/-- Up to `size` instances of a relation from an offset on. -/
def page (relation : Relation model) (size offset : UInt64) : Relation model :=
  (relation.offset offset).limit size

/-- What comes of reading a relation in pages, from an offset on. Every page is loaded from the
store that the one before has left. The first page with fewer instances than `size` is the last one,
and a load that fails ends the reading with its error. -/
inductive Paged (relation : Relation model) (size : UInt64) :
    UInt64 → σ → Except Error (List α) → σ → Prop
  | failed {offset : UInt64} {store next : σ} {after : Relation model} {e : Error}
    (fails : (relation.page size offset).load store = (.error e, after, next)) :
    Paged relation size offset store (.error e) next
  | last {offset : UInt64} {store next : σ} {after : Relation model} {rows : List α}
    (loads : (relation.page size offset).load store = (.ok rows, after, next))
    (short : rows.length < size.toNat) : Paged relation size offset store (.ok rows) next
  | more {offset : UInt64} {store next final : σ} {after : Relation model} {rows : List α}
    {others : Except Error (List α)}
    (loads : (relation.page size offset).load store = (.ok rows, after, next))
    (full : size.toNat ≤ rows.length)
    (rest : Paged relation size (offset + size) next others final) :
    Paged relation size offset store (others.map (rows ++ ·)) final

/-- The reading from an offset on comes to this, whatever it leaves of the store. -/
def PagesTo (relation : Relation model) (size offset : UInt64) (store : σ)
    (outcome : Except Error (List α)) : Prop :=
  ∃ final, relation.Paged size offset store outcome final

theorem pagesTo_of_error
    (fails : (relation.page size offset).load store = (.error e, after, next)) :
    relation.PagesTo size offset store outcome ↔ outcome = .error e := by
  constructor
  · intro pages
    obtain ⟨final, paged⟩ := pages
    cases paged with
    | failed other =>
      cases fails.symm.trans other
      rfl
    | last loads | more loads => cases fails.symm.trans loads
  · intro same
    rw [same]
    exact ⟨next, .failed fails⟩

theorem pagesTo_of_short (loads : (relation.page size offset).load store = (.ok rows, after, next))
    (short : rows.length < size.toNat) :
    relation.PagesTo size offset store outcome ↔ outcome = .ok rows := by
  constructor
  · intro pages
    obtain ⟨final, paged⟩ := pages
    cases paged with
    | failed fails => cases loads.symm.trans fails
    | last other =>
      cases loads.symm.trans other
      rfl
    | more other full =>
      cases loads.symm.trans other
      exact absurd short (Nat.not_lt.2 full)
  · intro same
    rw [same]
    exact ⟨next, .last loads short⟩

theorem pagesTo_of_full (loads : (relation.page size offset).load store = (.ok rows, after, next))
    (full : size.toNat ≤ rows.length) :
    relation.PagesTo size offset store outcome ↔
      ∃ others, relation.PagesTo size (offset + size) next others ∧
        outcome = others.map (rows ++ ·) := by
  constructor
  · intro pages
    obtain ⟨final, paged⟩ := pages
    cases paged with
    | failed fails => cases loads.symm.trans fails
    | last other short =>
      cases loads.symm.trans other
      exact absurd short (Nat.not_lt.2 full)
    | more other _ rest =>
      cases loads.symm.trans other
      exact ⟨_, ⟨final, rest⟩, rfl⟩
  · intro later
    obtain ⟨others, ⟨final, rest⟩, same⟩ := later
    rw [same]
    exact ⟨final, .more loads full rest⟩

theorem load_page (cuts : Store.CutsWindow answer) (answers : Store.Answers store answer) :
    ((relation.page size offset).load store).1 =
      (relation.query.matched model answer >>= fun records =>
        ((records.drop offset.toNat).take size.toNat).mapM model.ofRecord) := by
  rw [load_of_unloaded rfl, Query.fetch_of_answers answers]
  exact Query.answered_page cuts relation.query size offset

theorem leads_load_page : Store.Leads store ((relation.page size offset).load store).2.2 := by
  rw [load_of_unloaded rfl]
  exact Query.leads_fetch _ store

/-- From an offset on, the pages give the instances of all records that are matched there. -/
theorem pagesTo_iff_of_matched (cuts : Store.CutsWindow answer)
    (answers : Store.Answers store answer) (positive : 0 < size) {records : List Record}
    (all : relation.query.matched model answer = .ok records)
    (addressable : records.length < UInt64.size) (inside : offset.toNat ≤ records.length) :
    relation.PagesTo size offset store outcome ↔
      outcome = (records.drop offset.toNat).mapM model.ofRecord := by
  -- The records behind the offset become fewer with every page that is full.
  induction behind : records.length - offset.toNat using Nat.strongRecOn
    generalizing offset store outcome with
  | ind behind ih =>
    have given : ((relation.page size offset).load store).1 =
        ((records.drop offset.toNat).take size.toNat).mapM model.ofRecord := by
      rw [load_page cuts answers, all]
      rfl
    have leads : Store.Leads store ((relation.page size offset).load store).2.2 := leads_load_page
    rw [← List.take_append_drop size.toNat (records.drop offset.toNat)]
    rcases loads : (relation.page size offset).load store with ⟨e | rows, after, next⟩
    · rw [loads] at given
      rw [pagesTo_of_error loads, mapM_append_of_error given.symm]
    · rw [loads] at given leads
      have length := (mapM_eq_ok.1 given.symm).length_eq
      rw [List.length_take, List.length_drop] at length
      rw [mapM_append_of_ok given.symm, List.drop_drop]
      by_cases short : rows.length < size.toNat
      · have nothing : records.drop (offset.toNat + size.toNat) = [] :=
          List.drop_eq_nil_of_le (by omega)
        have ended : (([] : List Record).mapM model.ofRecord).map (rows ++ ·) = .ok rows :=
          congrArg Except.ok (List.append_nil rows)
        rw [pagesTo_of_short loads short, nothing, ended]
      · have room : offset.toNat + size.toNat ≤ records.length := by omega
        have advanced : (offset + size).toNat = offset.toNat + size.toNat := by
          rw [UInt64.toNat_add, Nat.mod_eq_of_lt (Nat.lt_of_le_of_lt room addressable)]
        have step : 0 < size.toNat := UInt64.lt_iff_toNat_lt.1 positive
        have rest (others : Except Error (List α)) :
            relation.PagesTo size (offset + size) next others ↔
              others = (records.drop (offset.toNat + size.toNat)).mapM model.ofRecord := by
          rw [← advanced]
          exact ih _ (by omega) (answers.later leads) (by omega) rfl
        rw [pagesTo_of_full loads (Nat.le_of_not_lt short)]
        simp only [rest, exists_eq_left]

/-- The pages of a relation give the instances of all that it matches, or the error that keeps this
from succeeding. -/
theorem pagesTo_iff (cuts : Store.CutsWindow answer) (answers : Store.Answers store answer)
    (positive : 0 < size)
    (addressable : ∀ records, relation.query.matched model answer = .ok records →
      records.length < UInt64.size) :
    relation.PagesTo size 0 store outcome ↔
      outcome = (relation.query.matched model answer >>= fun records =>
        records.mapM model.ofRecord) := by
  cases all : relation.query.matched model answer with
  | ok records =>
    exact pagesTo_iff_of_matched cuts answers positive all (addressable records all) (Nat.zero_le _)
  | error e =>
    have fails : ((relation.page size 0).load store).1 = .error e := by
      rw [load_page cuts answers, all]
      rfl
    exact pagesTo_of_error (Prod.ext fails rfl)

end Relation

/-! ## The canned store -/

namespace CannedStore

variable {store : CannedStore}

theorem matched_of_working (working : store.failure = none) {α : Type} (model : Model α)
    (query : Query) :
    (query.matched model fun _ => store.answer) =
      (query.compile model.mapping).map fun _ => store.records := by
  rw [Query.matched, Query.compile_eq_unbounded query]
  cases compiled : query.unbounded.compile model.mapping with
  | error e => rfl
  | ok params =>
    obtain ⟨_, _, unlimited, unskipped⟩ := Query.compile_eq_ok.1 compiled
    change store.answer params = .ok store.records
    rw [answer_of_working working, FetchParams.window_of_unbounded unlimited unskipped]

/-- A canned store that works answers with the records at the positions from the offset on, and
before the sum of the offset and the greatest number of records if there is one; the sum is not cut
to 64 bits. So the pages of any relation, of any size, come to the instances of all records, each
once and in order. If the relation does not compile or a record has no instance, they come to the
error that a fetch of all records has. The number of records fits 64 bits, as that of a list in
memory does. -/
theorem pages_tile (working : store.failure = none) :
    (∀ table params,
      (Store.fetch table params store).1 = .ok (itemsAt params.Covers 0 store.records)) ∧
    (store.records.length < UInt64.size →
      ∀ (α : Type) (model : Model α) (relation : Relation model) (size : UInt64), 0 < size →
        (∀ params rows, relation.compile = .ok params →
          List.Forall₂ (fun record row => model.ofRecord record = .ok row) store.records rows →
            ∀ outcome, relation.PagesTo size 0 store outcome ↔ outcome = .ok rows) ∧
        ∀ outcome, relation.PagesTo size 0 store outcome ↔
          outcome = (relation.compile >>= fun _ => store.records.mapM model.ofRecord)) := by
  constructor
  · intro table params
    rw [fetch_eq, answer_of_working working, FetchParams.window_eq_itemsAt]
  · intro addressable α model relation size positive
    have matched := matched_of_working working model relation.query
    have pages (outcome : Except Error (List α)) : relation.PagesTo size 0 store outcome ↔
        outcome = (relation.compile >>= fun _ => store.records.mapM model.ofRecord) := by
      rw [Relation.pagesTo_iff store.cutsWindow store.answers positive, matched]
      · rw [Relation.compile]
        cases relation.query.compile model.mapping <;> rfl
      · intro records all
        obtain ⟨_, _, rfl⟩ := map_eq_ok.1 (matched.symm.trans all)
        exact addressable
    refine ⟨?_, pages⟩
    intro params rows compiles made outcome
    rw [pages, compiles, ← mapM_eq_ok.2 made]
    rfl

/-- Four records in pages of two: the third page is empty. -/
theorem pages_tile_of_even :
    let model : Model (Option String) :=
      { table := "Users", ofRecord := fun record => .ok record.id }
    let store := CannedStore.ofRecords [.new "rec1", .new "rec2", .new "rec3", .new "rec4"]
    let relation : Relation model := (Relation.all.order (.asc "name")).limit 1
    let params : FetchParams := { offset := some 1, maxRecords := some 18446744073709551615 }
    store.failure = none ∧ store.records.length < UInt64.size ∧ (0 : UInt64) < 2 ∧
    relation.compile = .ok { sort := [⟨"name", .asc⟩], maxRecords := some 1 } ∧
    relation.PagesTo 2 0 store (.ok [some "rec1", some "rec2", some "rec3", some "rec4"]) ∧
    (Store.fetch model.tableRef params store).1 = .ok [.new "rec2", .new "rec3", .new "rec4"] := by
  intro model store relation params
  have working : store.failure = none := rfl
  have addressable : store.records.length < UInt64.size := by decide
  have compiles : relation.compile = .ok { sort := [⟨"name", .asc⟩], maxRecords := some 1 } := rfl
  obtain ⟨fetched, tiles⟩ := pages_tile working
  have made : List.Forall₂ (fun record row => model.ofRecord record = .ok row) store.records
      [some "rec1", some "rec2", some "rec3", some "rec4"] :=
    .cons rfl (.cons rfl (.cons rfl (.cons rfl .nil)))
  have pages := (tiles addressable _ model relation 2 (by decide)).1 _ _ compiles made
  have window : (Store.fetch model.tableRef params store).1 =
      .ok [.new "rec2", .new "rec3", .new "rec4"] := by
    rw [fetched, ← FetchParams.window_eq_itemsAt]
    rfl
  exact ⟨working, addressable, by decide, compiles, (pages _).2 rfl, window⟩

end CannedStore

end TableQuery
