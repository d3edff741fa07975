import TableQuery.Proofs.Store.Answering
import TableQuery.Proofs.Workspace.AllOrNothing

/-!
# The last instances are the end of a load

The last instances of a relation are fetched in the opposite order, cut, and turned round again; a
relation without order, or limited to a part, is fetched as it is and cut to its end. With a store
that answers by table and parameters and lets a bound cut its answers, both come to the end of what
a load gives, if the store also answers the opposite order by the opposite list:
`Terminal.last_of_load`.
-/

namespace TableQuery

/-- The sort key of the same column in the other direction. -/
def SortField.flipped (key : SortField) : SortField :=
  { key with direction := key.direction.reverse }

/-! ## Parameters of the last page -/

section Parameters

variable {mapping : FieldMapping}

theorem OrderBy.compile_reversed {key : OrderBy} {sort : SortField}
    (compiles : key.compile mapping = .ok sort) :
    key.reversed.compile mapping = .ok sort.flipped := by
  have name : key.reversed.field = key.field := rfl
  unfold compile at compiles ⊢
  rw [name]
  split at compiles
  · cases compiles
  · rename_i named
    rw [if_neg named]
    dsimp only at compiles ⊢
    split at compiles
    · cases compiles
    · rename_i found
      rw [if_neg found]
      cases compiles
      rfl

theorem Query.compile_lastPage {query : Query} {params : FetchParams} (n : UInt64)
    (compiles : query.compile mapping = .ok params) :
    (query.lastPage n).compile mapping =
      .ok { params with sort := params.sort.map SortField.flipped, maxRecords := some n } := by
  obtain ⟨written, sorted, _, offset⟩ := compile_eq_ok.1 compiles
  have flipped : (query.order.map OrderBy.reversed).mapM (OrderBy.compile mapping) =
      .ok (params.sort.map SortField.flipped) := by
    rw [mapM_eq_ok, List.forall₂_map_left_iff, List.forall₂_map_right_iff]
    exact (mapM_eq_ok.1 sorted).imp fun _ _ => OrderBy.compile_reversed
  exact compile_eq_ok.2 ⟨written, flipped, rfl, offset⟩

end Parameters

/-! ## Loads and ends -/

namespace Relation

variable {α σ : Type} [Store σ] {model : Model α} {relation : Relation model} {store : σ}
  {answer : Answer} {rows : List α}

/-- A store answers a relation by a function of table and parameters: it has so far, as to what the
relation has loaded, and a bound cuts the answers. A relation with an order, and neither limit nor
offset, gets the opposite list in the opposite order. -/
structure Served (relation : Relation model) (store : σ) (answer : Answer) : Prop where
  answers : Store.Answers store answer
  loaded : ∀ rows, relation.loaded = some rows → (relation.query.fetch model store).1 = .ok rows
  cuts : Store.CutsPrefix answer
  mirrors : relation.query.order ≠ [] → relation.query.limit = none →
    relation.query.offset = none → ∀ params records, relation.compile = .ok params →
      answer model.tableRef params = .ok records →
      answer model.tableRef { params with sort := params.sort.map SortField.flipped } =
        .ok records.reverse

theorem Served.answered_of_load (served : relation.Served store answer)
    (loads : (relation.load store).1 = .ok rows) :
    relation.query.answered model answer = .ok rows := by
  refine Current.answered_of_load ?_ served.answers loads
  intro rows loaded
  rw [← Query.fetch_of_answers served.answers]
  exact served.loaded rows loaded

/-- Whichever way the end of a relation is fetched, it is that of a load. -/
theorem Served.ending_of_load (served : relation.Served store answer)
    (loads : (relation.load store).1 = .ok rows) (n : UInt64) :
    ∃ page, (relation.query.forLast n).answered model answer = .ok page ∧
      relation.query.ending n page = rows.drop (rows.length - n.toNat) := by
  have all := served.answered_of_load loads
  rw [Query.forLast_eq]
  unfold Query.ending
  cases reversible : relation.query.isReversible with
  | false => exact ⟨rows, all, rfl⟩
  | true =>
    obtain ⟨params, records, compiles, given, made⟩ := Query.answered_eq_ok.1 all
    obtain ⟨⟨ordered, unlimited⟩, unskipped⟩ : (relation.query.order ≠ [] ∧
        relation.query.limit = none) ∧ relation.query.offset = none := by
      simpa [Query.isReversible] using reversible
    have opposite := served.mirrors ordered unlimited unskipped params records compiles given
    have unbounded : params.maxRecords = none :=
      (Query.compile_eq_ok.1 compiles).2.2.1.trans unlimited
    have cut := served.cuts model.tableRef { params with sort := params.sort.map SortField.flipped }
      _ n unbounded opposite
    have turned : (rows.reverse.take n.toNat).reverse = rows.drop (rows.length - n.toNat) := by
      rw [List.take_reverse, List.reverse_reverse]
    refine ⟨rows.reverse.take n.toNat, Query.answered_eq_ok.2 ?_, turned⟩
    exact ⟨_, _, Query.compile_lastPage n compiles, cut,
      List.forall₂_take n.toNat (List.forall₂_reverse_iff.2 made)⟩

/-- The canned store serves every relation that has no order or is limited to a part. -/
theorem served_canned (store : CannedStore)
    (loaded : ∀ rows, relation.loaded = some rows → (relation.query.fetch model store).1 = .ok rows)
    (part : relation.query.order = [] ∨ relation.query.limit ≠ none ∨
      relation.query.offset ≠ none) :
    relation.Served store fun _ => store.answer where
  answers := store.answers
  loaded := loaded
  cuts := store.cutsWindow.cutsPrefix
  mirrors := by
    intro ordered unlimited unskipped
    rcases part with unordered | limited | skipped
    · exact absurd unordered ordered
    · exact absurd unlimited limited
    · exact absurd unskipped skipped

end Relation

namespace Terminal

variable {α σ : Type} [Store σ] {model : Model α} {relation : Relation model} {store : σ}
  {answer : Answer} {rows : List α}

/-- The last instances, however many are asked for, are the end of what a load gives. -/
theorem perform_lastN_of_load (served : relation.Served store answer)
    (loads : (relation.load store).1 = .ok rows) (n : UInt64) {later : σ}
    (leads : Store.Leads store later) :
    ((lastN n).perform relation later).1 = .ok (.rows (rows.drop (rows.length - n.toNat))) := by
  by_cases none : n = 0
  · have nothing : rows.drop (rows.length - n.toNat) = [] := by
      simp [none]
    rw [nothing, none]
    rfl
  · obtain ⟨page, answered, ending⟩ := served.ending_of_load loads n
    have asks : (lastN n).asked? relation = some (relation.query.forLast n) := if_neg none
    rw [result_of_asked asks, Query.fetch_of_answers (served.answers.later leads), answered,
      ← ending]
    rfl

theorem perform_last_of_load (served : relation.Served store answer)
    (loads : (relation.load store).1 = .ok rows) {later : σ} (leads : Store.Leads store later) :
    (last.perform relation later).1 = .ok (.atMostOne rows.getLast?) := by
  obtain ⟨page, answered, ending⟩ := served.ending_of_load loads 1
  have final : (rows.drop (rows.length - (1 : UInt64).toNat)).getLast? = rows.getLast? := by
    rcases List.eq_nil_or_concat rows with rfl | ⟨before, row, rfl⟩
    · rfl
    · simp
  have asks : last.asked? relation = some (relation.query.forLast 1) := rfl
  rw [result_of_asked asks, Query.fetch_of_answers (served.answers.later leads), answered,
    ← final, ← ending]
  rfl

/-- Whenever a load succeeds, so do the operations for the last instances, at any later time, and
they get the end of what the load gets: as many instances as are asked for, or all if there are
fewer, in the order of the relation. The canned store serves relations in this way unless they have
an order and are not limited to a part. -/
theorem last_of_load (served : relation.Served store answer)
    (loads : (relation.load store).1 = .ok rows) :
    (∀ later, Store.Leads store later →
      (∀ n : UInt64, ∃ page, ((lastN n).perform relation later).1 = .ok (.rows page) ∧
        page <:+ rows ∧ page.length = min n.toNat rows.length) ∧
      (last.perform relation later).1 = .ok (.atMostOne rows.getLast?)) ∧
    ∀ (canned : CannedStore) (other : Relation model),
      (∀ held, other.loaded = some held → (other.query.fetch model canned).1 = .ok held) →
      other.query.order = [] ∨ other.query.limit ≠ none ∨ other.query.offset ≠ none →
      other.Served canned fun _ => canned.answer := by
  constructor
  · intro later leads
    refine ⟨fun n => ?_, perform_last_of_load served loads leads⟩
    refine ⟨_, perform_lastN_of_load served loads n leads, List.drop_suffix _ rows, ?_⟩
    rw [List.length_drop]
    omega
  · intro canned other
    exact Relation.served_canned canned

/-- A store with its records in the order of the only column that they are ever sorted by. -/
structure RankedStore where
  records : List Record

/-- The records in the direction of the first key. -/
def RankedStore.sorted (store : RankedStore) (params : FetchParams) : List Record :=
  if params.sort.head?.any (·.direction = .desc) then store.records.reverse else store.records

instance : Store RankedStore where
  fetch _ params store := (.ok (params.window (store.sorted params)), store)

/-- Three records by name: the last two come in the order of the names, though they were fetched the
other way round, and more than there are is all of them. -/
theorem last_of_load_of_ranked :
    let model : Model (Option String) := { table := "Users", ofRecord := fun record => .ok record.id }
    let relation : Relation model := Relation.all.order (.asc "name")
    let store : RankedStore := ⟨[.new "rec1", .new "rec2", .new "rec3"]⟩
    ((lastN 2).perform relation store).1 = .ok (.rows [some "rec2", some "rec3"]) ∧
      ((lastN 5).perform relation store).1 = .ok (.rows [some "rec1", some "rec2", some "rec3"]) ∧
      (last.perform relation store).1 = .ok (.atMostOne (some (some "rec3"))) := by
  intro model relation store
  have unchanged : ∀ later, Store.Leads store later → later = store := by
    intro later leads
    induction leads with
    | refl => rfl
    | tail _ fetched ih =>
      obtain ⟨table, params, rfl⟩ := fetched
      exact ih
  have compiles : relation.compile = .ok { sort := [⟨"name", .asc⟩] } := rfl
  have served : relation.Served store fun _ params => .ok (params.window (store.sorted params)) :=
    { answers := by
        intro later leads table params
        rw [unchanged later leads]
        rfl
      loaded := by
        intro rows loaded
        cases loaded
      cuts := by
        intro table params records n unbounded given
        cases given
        simp only [FetchParams.window, unbounded]
        rfl
      mirrors := by
        intro _ _ _ params records known given
        cases compiles.symm.trans known
        cases given
        rfl }
  have loads : (relation.load store).1 = .ok [some "rec1", some "rec2", some "rec3"] := rfl
  obtain ⟨ends, last⟩ := (last_of_load served loads).1 store .refl
  obtain ⟨two, lasts, suffix, length⟩ := ends 2
  obtain ⟨all, every, whole, many⟩ := ends 5
  have final : two = [some "rec2", some "rec3"] := by
    rw [List.suffix_iff_eq_drop.1 suffix, length]
    rfl
  have entire : all = [some "rec1", some "rec2", some "rec3"] := by
    rw [List.suffix_iff_eq_drop.1 whole, many]
    rfl
  exact ⟨final ▸ lasts, entire ▸ every, last⟩

end Terminal

end TableQuery
