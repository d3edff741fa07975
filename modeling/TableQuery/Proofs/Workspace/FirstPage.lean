import TableQuery.Proofs.Store.Answering
import TableQuery.Proofs.Workspace.AllOrNothing

/-!
# The first instances are the front of a load

The first instances of a relation are looked for in its own order, or by the time of creation if it
has none and there is an attribute for it: `Relation.inFirstOrder`. They are fetched with a limit, but
never with a higher one than the relation has itself. So with a store that answers by table and
parameters, and cuts a window out of what matches, they are the front of what a load of that relation
gets: `Terminal.first_of_load`.
-/

namespace TableQuery

namespace Relation

variable {α : Type} {model : Model α} {relation : Relation model} {answer : Answer}
  {rows : List α}

/-- The relation as its first instances are looked for: in its own order, or else by the time of
creation, if there is an attribute for it. -/
def inFirstOrder (relation : Relation model) : Relation model :=
  match relation.query.order, model.createdField with
  | [], some created => relation.order (.asc created)
  | _, _ => relation

/-- A relation that is put in order has loaded nothing yet. -/
theorem Current.inFirstOrder (current : relation.Current answer) :
    relation.inFirstOrder.Current answer := by
  unfold Relation.inFirstOrder
  split
  · exact current_ofQuery _
  · exact current

/-- The limit that so many first instances are fetched with: the relation's own if it is lower. -/
def firstLimit (relation : Relation model) (n : UInt64) : UInt64 :=
  match relation.query.limit with
  | some own => min own n
  | none => n

theorem forFirst_eq (relation : Relation model) (n : UInt64) :
    relation.query.forFirst model.createdField n =
      relation.inFirstOrder.query.setLimit (relation.firstLimit n) := by
  unfold Query.forFirst inFirstOrder firstLimit
  rcases relation with ⟨⟨conditions, order, limit, offset⟩, loaded⟩
  dsimp only
  cases model.createdField with
  | none => cases order <;> cases limit <;> rfl
  | some created => cases order <;> cases limit <;> rfl

theorem inFirstOrder_limit (relation : Relation model) :
    relation.inFirstOrder.query.limit = relation.query.limit := by
  unfold inFirstOrder
  split <;> rfl

theorem firstLimit_le (relation : Relation model) (n : UInt64) :
    ∀ own ∈ relation.inFirstOrder.query.limit, relation.firstLimit n ≤ own := by
  intro own limited
  rw [inFirstOrder_limit] at limited
  rw [firstLimit, Option.mem_def.1 limited, UInt64.le_iff_toNat_le, UInt64.toNat_min]
  exact Nat.min_le_left _ _

/-- A limit below the relation's own takes as much as it says, and a limit above it takes all that
the relation's own has left. -/
theorem take_firstLimit (cuts : Store.CutsWindow answer)
    (all : relation.inFirstOrder.query.answered model answer = .ok rows) (n : UInt64) :
    rows.take (relation.firstLimit n).toNat = rows.take n.toNat := by
  unfold firstLimit
  cases limited : relation.query.limit with
  | none => rfl
  | some own =>
    have length : rows.length ≤ own.toNat :=
      Query.length_le_of_answered cuts all (relation.inFirstOrder_limit.trans limited)
    rw [UInt64.toNat_min, Nat.min_comm, ← List.take_take, List.take_of_length_le length]

/-- The first instances are the front of what the relation gets in the order in which they are
looked for. -/
theorem answered_forFirst (cuts : Store.CutsWindow answer)
    (all : relation.inFirstOrder.query.answered model answer = .ok rows) (n : UInt64) :
    (relation.query.forFirst model.createdField n).answered model answer =
      .ok (rows.take n.toNat) := by
  rw [forFirst_eq, Query.answered_setLimit cuts all (relation.firstLimit_le n),
    take_firstLimit cuts all]

end Relation

namespace Terminal

variable {α σ : Type} [Store σ] {model : Model α} {relation : Relation model} {store later : σ}
  {answer : Answer} {rows : List α}

theorem perform_firstN_of_answered (cuts : Store.CutsWindow answer)
    (answers : Store.Answers later answer)
    (all : relation.inFirstOrder.query.answered model answer = .ok rows) (n : UInt64) :
    ((firstN n).perform relation later).1 = .ok (.rows (rows.take n.toNat)) := by
  by_cases none : n = 0
  · rw [none]
    rfl
  · have asks : (firstN n).asked? relation =
        some (relation.query.forFirst model.createdField n) := if_neg none
    rw [result_of_asked asks, Query.fetch_of_answers answers, Relation.answered_forFirst cuts all]
    rfl

theorem perform_first_of_answered (cuts : Store.CutsWindow answer)
    (answers : Store.Answers later answer)
    (all : relation.inFirstOrder.query.answered model answer = .ok rows) :
    (first.perform relation later).1 = .ok (.atMostOne rows.head?) := by
  have asks : first.asked? relation = some (relation.query.forFirst model.createdField 1) := rfl
  rw [result_of_asked asks, Query.fetch_of_answers answers, Relation.answered_forFirst cuts all]
  cases rows <;> rfl

/-- Whenever a load of the relation, in the order in which first instances are looked for, succeeds,
so do the operations for the first instances, at any later time, and they get the front of what the
load gets: as many instances as are asked for, or all if there are fewer. The relation may have been
loaded before, from the same store. The canned store answers in the way that this rests on, whatever
its records are. -/
theorem first_of_load (cuts : Store.CutsWindow answer) (answers : Store.Answers store answer)
    (current : relation.Current answer) (loads : (relation.inFirstOrder.load store).1 = .ok rows) :
    (∀ later, Store.Leads store later →
      (∀ n : UInt64, ∃ page, ((firstN n).perform relation later).1 = .ok (.rows page) ∧
        page <+: rows ∧ page.length = min n.toNat rows.length) ∧
      (first.perform relation later).1 = .ok (.atMostOne rows.head?)) ∧
    ∀ canned : CannedStore, (Store.CutsWindow fun _ => canned.answer) ∧
      Store.Answers canned fun _ => canned.answer := by
  have all := current.inFirstOrder.answered_of_load answers loads
  constructor
  · intro later leads
    have still := answers.later leads
    refine ⟨fun n => ?_, perform_first_of_answered cuts still all⟩
    exact ⟨_, perform_firstN_of_answered cuts still all n, List.take_prefix n.toNat rows,
      List.length_take⟩
  · intro canned
    exact ⟨canned.cutsWindow, canned.answers⟩

/-- The second and the third of four records, of a relation that has been loaded before without an
order: no first instance comes from outside, however many are asked for. -/
theorem first_of_load_of_part :
    let model : Model (Option String) :=
      { table := "Users", createdField := some "created", ofRecord := fun record => .ok record.id }
    let store := CannedStore.ofRecords [.new "rec1", .new "rec2", .new "rec3", .new "rec4"]
    let relation : Relation model := (((Relation.all.limit 2).offset 1).load store).2.1
    relation.isLoaded = true ∧
      ((firstN 1).perform relation store).1 = .ok (.rows [some "rec2"]) ∧
      ((firstN 18446744073709551615).perform relation store).1 =
        .ok (.rows [some "rec2", some "rec3"]) ∧
      (first.perform relation store).1 = .ok (.atMostOne (some (some "rec2"))) := by
  intro model store relation
  have current : relation.Current fun _ => store.answer :=
    (Relation.current_ofQuery _).load store.answers
  have loads : (relation.inFirstOrder.load store).1 = .ok [some "rec2", some "rec3"] := rfl
  obtain ⟨pages, head⟩ := (first_of_load store.cutsWindow store.answers current loads).1 store .refl
  obtain ⟨one, single, front, length⟩ := pages 1
  obtain ⟨all, every, whole, many⟩ := pages 18446744073709551615
  have least : one = [some "rec2"] := by
    rw [List.prefix_iff_eq_take.1 front, length]
    rfl
  have entire : all = [some "rec2", some "rec3"] := by
    rw [List.prefix_iff_eq_take.1 whole, many]
    rfl
  exact ⟨rfl, least ▸ single, entire ▸ every, head⟩

end Terminal

end TableQuery
