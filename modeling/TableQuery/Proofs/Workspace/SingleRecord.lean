import TableQuery.Proofs.Store.Answering
import TableQuery.Proofs.Workspace.AllOrNothing

/-!
# Single records and the limit of their relation

A record that meets a filter is looked for with the limit one, which takes the place of the limit
that the relation has. With a store that answers by table and parameters, and cuts a window out of
what matches, it is the first record that a load of the filtered relation gets, as long as the limit
of the relation is not zero. With the limit zero the load gets nothing, and a record is found all the
same if there is one: `Terminal.findFirst_of_load`, `Terminal.findFirst_outside_of_zero`.
-/

namespace TableQuery

theorem Query.addFilter_limit (query : Query) (given : Filter) :
    (query.addFilter given).limit = query.limit := by
  unfold addFilter
  split <;> rfl

namespace Terminal

variable {α σ : Type} [Store σ] {model : Model α} {relation : Relation model} {store later : σ}
  {answer : Answer} {rows : List α} {given : Filter}

/-- The record that is found is the first one of a load of the filtered relation with the limit
one. -/
theorem perform_findFirst (relation : Relation model) (given : Filter) (store : σ) :
    ((findFirst given).perform relation store).1 =
      (((relation.filter given).limit 1).load store).1.map fun found =>
        .atMostOne found.head? := by
  have asks : (findFirst given).asked? relation =
      some ((relation.filter given).limit 1).query :=
    congrArg some (relation.query.single_eq_forMatch given).symm
  rw [result_of_asked asks, Relation.load_of_unloaded rfl]
  rcases ((relation.filter given).limit 1).query.fetch model store with ⟨_ | _, _⟩ <;> rfl

theorem answered_of_load_filter (answers : Store.Answers store answer)
    (loads : ((relation.filter given).load store).1 = .ok rows) :
    (relation.query.addFilter given).answered model answer = .ok rows :=
  (Relation.current_ofQuery _).answered_of_load answers loads

/-- A limit that is not zero leaves room for the one record. -/
theorem load_limit_one (cuts : Store.CutsWindow answer) (answers : Store.Answers store answer)
    (loads : ((relation.filter given).load store).1 = .ok rows) (room : relation.query.limit ≠ some 0)
    (leads : Store.Leads store later) :
    (((relation.filter given).limit 1).load later).1 = .ok (rows.take 1) := by
  have all := answered_of_load_filter answers loads
  rw [Relation.load_of_unloaded rfl, Query.fetch_of_answers (answers.later leads)]
  refine Query.answered_setLimit cuts all ?_
  intro own limited
  have kept : relation.query.limit = some own :=
    (relation.query.addFilter_limit given).symm.trans limited
  have positive : own.toNat ≠ 0 := by
    intro least
    have zero : own = 0 := UInt64.toNat_inj.1 least
    exact room (zero ▸ kept)
  rw [UInt64.le_iff_toNat_le]
  exact Nat.one_le_iff_ne_zero.2 positive

/-- With the limit zero a load gets nothing. -/
theorem eq_nil_of_limit_zero (cuts : Store.CutsWindow answer)
    (answers : Store.Answers store answer)
    (loads : ((relation.filter given).load store).1 = .ok rows)
    (zero : relation.query.limit = some 0) : rows = [] := by
  have length := Query.length_le_of_answered cuts (answered_of_load_filter answers loads)
    ((relation.query.addFilter_limit given).trans zero)
  exact List.length_eq_zero_iff.1 (Nat.le_zero.1 length)

/-- Whenever a load of the filtered relation succeeds, a record is found, at any later time, just as
the first one of this load, with one exception: the limit of the relation is zero, so the load gets
nothing, and there is a record that the limit one would let through. Whatever the limit, the record
found is the first one that a load of the filtered relation with the limit one gets. -/
theorem findFirst_of_load (cuts : Store.CutsWindow answer) (answers : Store.Answers store answer)
    (loads : ((relation.filter given).load store).1 = .ok rows)
    (leads : Store.Leads store later) :
    let found := ((findFirst given).perform relation later).1
    let limited := (((relation.filter given).limit 1).load later).1
    (found = .ok (.atMostOne rows.head?) ↔
        relation.query.limit ≠ some 0 ∨ limited = .ok []) ∧
      (relation.query.limit = some 0 → rows = []) ∧
      found = limited.map fun page => .atMostOne page.head? := by
  intro found limited
  have nothing := eq_nil_of_limit_zero cuts answers loads
  have first : found = limited.map fun page => .atMostOne page.head? :=
    perform_findFirst relation given later
  refine ⟨?_, nothing, first⟩
  by_cases zero : relation.query.limit = some 0
  · have empty : limited.map (fun page => Found.atMostOne page.head?) = .ok (.atMostOne none) ↔
        limited = .ok [] := by
      rcases limited with e | ⟨_ | ⟨row, rows⟩⟩ <;> simp [Except.map]
    rw [first, nothing zero, List.head?_nil, empty]
    simp [zero]
  · have front : limited = .ok (rows.take 1) := load_limit_one cuts answers loads zero leads
    rw [first, front]
    refine iff_of_true ?_ (.inl zero)
    cases rows <;> rfl

/-- The second record is the first one of the relation, so it is found in spite of the first. -/
theorem findFirst_of_load_of_part :
    let model : Model (Option String) := { table := "Users", ofRecord := fun record => .ok record.id }
    let store := CannedStore.ofRecords [.new "rec1", .new "rec2", .new "rec3"]
    let relation : Relation model := (Relation.all.limit 2).offset 1
    let given := Filter.raw "\x7bage\x7d > 21"
    ((relation.filter given).load store).1 = .ok [some "rec2", some "rec3"] ∧
      ((findFirst given).perform relation store).1 = .ok (.atMostOne (some (some "rec2"))) := by
  intro model store relation given
  have loads : ((relation.filter given).load store).1 = .ok [some "rec2", some "rec3"] := rfl
  have room : relation.query.limit ≠ some 0 := by decide
  have same := (findFirst_of_load store.cutsWindow store.answers loads .refl).1
  exact ⟨loads, same.2 (.inl room)⟩

/-- A relation with the limit zero has no records, and a record is found in it. -/
theorem findFirst_outside_of_zero :
    let model : Model (Option String) := { table := "Users", ofRecord := fun record => .ok record.id }
    let store := CannedStore.ofRecords [.new "rec1"]
    let relation : Relation model := Relation.all.limit 0
    let given := Filter.raw "\x7bName\x7d = 'Ada'"
    ((Store.CutsWindow fun _ => store.answer) ∧ Store.Answers store fun _ => store.answer) ∧
      ((relation.filter given).load store).1 = .ok [] ∧
      ((findFirst given).perform relation store).1 = .ok (.atMostOne (some (some "rec1"))) ∧
      ((findFirst given).perform relation store).1 ≠
        .ok (.atMostOne ([] : List (Option String)).head?) := by
  intro model store relation given
  have found : ((findFirst given).perform relation store).1 =
      .ok (.atMostOne (some (some "rec1"))) := rfl
  refine ⟨⟨store.cutsWindow, store.answers⟩, rfl, found, ?_⟩
  rw [found]
  intro same
  cases same

end Terminal

end TableQuery
