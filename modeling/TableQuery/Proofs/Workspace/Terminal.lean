import TableQuery.Proofs.Store.Log
import TableQuery.Workspace

/-!
# What terminal operations do

Every terminal operation stands for one query, or for none: `Terminal.asked?` names it in terms of
the relation alone. An operation leaves the entry of that query in the log of the canned store, and
only loads look at the loaded instances of their relation or change them.
-/

namespace TableQuery

/-- The key, sorted the other way round. -/
def OrderBy.flipped : OrderBy → OrderBy
  | ⟨field, .asc⟩ => .desc field
  | ⟨field, .desc⟩ => .asc field

theorem OrderBy.flipped_eq_reversed (key : OrderBy) : key.flipped = key.reversed := by
  rcases key with ⟨field, _ | _⟩ <;> rfl

namespace Query

/-- The query for the first records: in the order of the query or else by the time of creation, and
no more of them than the query itself allows. -/
def forFirst (query : Query) (createdField : Option String) (n : UInt64) : Query :=
  { query with
    order := match query.order, createdField with
      | [], some created => [.asc created]
      | order, _ => order
    limit := match query.limit with
      | some own => some (min own n)
      | none => some n }

/-- The query for the last records: the query itself if it has no order or is limited to a part, and
otherwise the first ones in the opposite order. -/
def forLast (query : Query) (n : UInt64) : Query :=
  if query.order.isEmpty || query.limit.isSome || query.offset.isSome then query
  else { query with order := query.order.map OrderBy.flipped, limit := some n }

/-- The query for a record that meets a filter. -/
def forMatch (query : Query) (given : Filter) : Query :=
  { query with conditions := query.conditions ++ given.condition?.toList, limit := some 1 }

theorem firstPage_eq_forFirst (query : Query) (createdField : Option String) (n : UInt64) :
    query.firstPage createdField n = query.forFirst createdField n := by
  rcases query with ⟨conditions, order, limit, offset⟩
  cases order <;> cases createdField <;> cases limit <;> rfl

theorem single_eq_forMatch (query : Query) (given : Filter) :
    query.single given = query.forMatch given := by
  rw [single, addFilter, forMatch]
  cases given.condition? <;> simp [setLimit]

theorem forLast_eq (query : Query) (n : UInt64) :
    query.forLast n = if query.isReversible then query.lastPage n else query := by
  have part : (query.order.isEmpty || query.limit.isSome || query.offset.isSome) =
      !query.isReversible := by
    simp [isReversible]
  rw [forLast, part]
  cases query.isReversible with
  | true =>
    rw [lastPage, reversed, setLimit, funext OrderBy.flipped_eq_reversed]
    rfl
  | false => rfl

/-- The end of a page: the whole page the other way round if it was fetched in the opposite order,
and otherwise its last `n` instances. -/
def ending {α : Type} (query : Query) (n : UInt64) (page : List α) : List α :=
  if query.isReversible then page.reverse else page.drop (page.length - n.toNat)

variable {α : Type} {model : Model α}

section Asking

variable {σ : Type} [Store σ] {n : UInt64}

theorem firstN_of_pos (some : n ≠ 0) (query : Query) (store : σ) :
    query.firstN model n store = (query.forFirst model.createdField n).fetch model store := by
  rw [firstN, if_neg some, firstPage_eq_forFirst]

theorem lastN_of_pos (some : n ≠ 0) (query : Query) (store : σ) :
    query.lastN model n store = (((query.forLast n).fetch model store).1.map (query.ending n),
      ((query.forLast n).fetch model store).2) := by
  unfold lastN ending
  rw [if_neg some, forLast_eq]
  cases query.isReversible <;> rfl

end Asking

theorem firstN_store (query : Query) (n : UInt64) (store : CannedStore) :
    (query.firstN model n store).2 = store.logged
      (if n = 0 then [] else (query.forFirst model.createdField n).entries model) := by
  by_cases none : n = 0
  · rw [firstN, if_pos none, if_pos none, CannedStore.logged_nil]
  · rw [firstN_of_pos none, if_neg none, fetch_store]

theorem lastN_store (query : Query) (n : UInt64) (store : CannedStore) :
    (query.lastN model n store).2 = store.logged
      (if n = 0 then [] else (query.forLast n).entries model) := by
  by_cases none : n = 0
  · rw [lastN, if_pos none, if_pos none, CannedStore.logged_nil]
  · rw [lastN_of_pos none, if_neg none, fetch_store]

theorem findFirst_store (query : Query) (given : Filter) (store : CannedStore) :
    (query.findFirst model given store).2 =
      store.logged ((query.forMatch given).entries model) := by
  rw [findFirst, fetch_store, single_eq_forMatch]

theorem findRequired_store (query : Query) (given : Filter) (store : CannedStore) :
    (query.findRequired model given store).2 =
      store.logged ((query.forMatch given).entries model) := by
  rw [findRequired, fetch_store, single_eq_forMatch]

end Query

namespace Terminal

variable {α σ : Type} {model : Model α} {operation : Terminal}

/-- The operations that load their relation. -/
def isLoad : Terminal → Bool
  | .load | .each | .count => true
  | _ => false

/-- The query that an operation asks the store for, if it asks at all. -/
def asked? (operation : Terminal) (relation : Relation model) : Option Query :=
  match operation with
  | .load | .each | .count => if relation.isLoaded then none else some relation.query
  | .first => some (relation.query.forFirst model.createdField 1)
  | .firstN n => if n = 0 then none else some (relation.query.forFirst model.createdField n)
  | .last => some (relation.query.forLast 1)
  | .lastN n => if n = 0 then none else some (relation.query.forLast n)
  | .findFirst given | .findRequired given => some (relation.query.forMatch given)

/-- The entry that an operation leaves in the log. -/
def entries (operation : Terminal) (relation : Relation model) : List FetchCall :=
  match operation.asked? relation with
  | some query => query.entries model
  | none => []

theorem entries_of_load (load : operation.isLoad = true) (relation : Relation model) :
    operation.entries relation = relation.loadEntries := by
  cases operation with
  | load | each | count =>
    unfold entries asked? Relation.loadEntries
    cases relation.isLoaded <;> rfl
  | _ => cases load

theorem entries_firstN (n : UInt64) (relation : Relation model) :
    (firstN n).entries relation =
      if n = 0 then [] else (relation.query.forFirst model.createdField n).entries model := by
  by_cases none : n = 0 <;> simp [entries, asked?, none]

theorem entries_lastN (n : UInt64) (relation : Relation model) :
    (lastN n).entries relation =
      if n = 0 then [] else (relation.query.forLast n).entries model := by
  by_cases none : n = 0 <;> simp [entries, asked?, none]

theorem store_of_load (load : operation.isLoad = true) (relation : Relation model)
    (store : CannedStore) : (operation.perform relation store).2 = (relation.load store).2 := by
  cases operation with
  | load | count => rfl
  | each => exact relation.each_state _ _ store
  | _ => cases load

/-- An operation leaves its entry in the log. -/
theorem perform_store (operation : Terminal) (relation : Relation model) (store : CannedStore) :
    (operation.perform relation store).2.2 = store.logged (operation.entries relation) := by
  cases operation with
  | load | each | count => rw [store_of_load rfl, relation.load_canned, entries_of_load rfl]
  | first => exact relation.query.firstN_store 1 store
  | firstN n => exact entries_firstN n relation ▸ relation.query.firstN_store n store
  | last => exact relation.query.lastN_store 1 store
  | lastN n => exact entries_lastN n relation ▸ relation.query.lastN_store n store
  | findFirst given => exact relation.query.findFirst_store given store
  | findRequired given => exact relation.query.findRequired_store given store

/-- A relation holds after a load what it held, or else what the load has got. -/
theorem perform_relation (operation : Terminal) (relation : Relation model)
    (store : CannedStore) :
    (operation.perform relation store).2.1 = relation.withLoaded
      (relation.loaded <|>
        if operation.isLoad then relation.query.fetched? model store else none) := by
  cases operation with
  | load | each | count =>
    rw [store_of_load rfl, relation.load_canned]
    rfl
  | _ => simp [isLoad, perform]

/-- An operation that is no load neither looks at loaded instances nor changes them. -/
theorem perform_of_unread {σ : Type} [Store σ] (unread : operation.isLoad = false)
    (relation : Relation model) (loaded : Option (List α)) (store : σ) :
    operation.perform (relation.withLoaded loaded) store =
      ((operation.perform relation store).1, relation.withLoaded loaded,
        (operation.perform relation store).2.2) := by
  cases operation with
  | load | each | count => cases unread
  | _ => rfl

variable {σ : Type} [Store σ] {relation : Relation model} {rows : List α}

theorem perform_load_of_loaded (loaded : relation.loaded = some rows) (store : σ) :
    load.perform relation store = (.ok (.rows rows), relation, store) := by
  rw [perform, Relation.load_of_loaded loaded]
  rfl

theorem perform_each_of_loaded (loaded : relation.loaded = some rows) (store : σ) :
    each.perform relation store = (.ok (.visited rows), relation, store) := by
  have visited : rows.foldl (fun rows row => row :: rows) [] = rows.reverse := by
    simp
  rw [perform, Relation.each_of_ok (Relation.load_of_loaded loaded store)]
  simp only [Except.map, visited, List.reverse_reverse]

theorem perform_count_of_loaded (loaded : relation.loaded = some rows) (store : σ) :
    count.perform relation store = (.ok (.count rows.length), relation, store) := by
  rw [perform, Relation.count, Relation.load_of_loaded loaded]
  rfl

end Terminal

end TableQuery
