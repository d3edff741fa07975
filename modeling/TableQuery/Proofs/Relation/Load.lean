import Mathlib.Logic.Function.Iterate
import TableQuery.Relation.Basic

/-!
# Loads one after the other

What one load does to a relation that has loaded nothing yet, and what any number of loads do, each
on the relation and the store that the one before has left. The store may change with every fetch;
`Steady` says that it nevertheless keeps to its answer.
-/

namespace TableQuery

/-- The store gives one answer, however often it has been asked. -/
def Steady {α σ : Type} (fetch : σ → Except Error (List α) × σ) (store : σ)
    (answer : Except Error (List α)) : Prop :=
  ∀ n, (fetch ((Prod.snd ∘ fetch)^[n] store)).1 = answer

theorem Steady.next {α σ : Type} {fetch : σ → Except Error (List α) × σ} {store : σ}
    {answer : Except Error (List α)} (steady : Steady fetch store answer) :
    Steady fetch (fetch store).2 answer :=
  fun n => steady (n + 1)

namespace Relation

variable {α σ : Type} {model : Model α} [Store σ] {relation : Relation model} {rows : List α}
  {e : Error} {store : σ}

/-- A load of a relation that has loaded nothing is a fetch, and the relation holds what it got. -/
theorem load_of_unloaded (empty : relation.loaded = none) (store : σ) :
    relation.load store = ((relation.query.fetch model store).1,
      { relation with loaded := (relation.query.fetch model store).1.toOption },
      (relation.query.fetch model store).2) := by
  rcases relation with ⟨query, loaded⟩
  cases empty
  unfold load
  rcases query.fetch model store with ⟨_ | _, _⟩ <;> rfl

/-- So many loads, each on what the one before has left. -/
def loadTimes (relation : Relation model) :
    Nat → σ → List (Except Error (List α)) × Relation model × σ
  | 0, store => ([], relation, store)
  | n + 1, store =>
    let (answer, relation, store) := relation.load store
    let (answers, relation, store) := relation.loadTimes n store
    (answer :: answers, relation, store)

theorem loadTimes_of_loaded (loaded : relation.loaded = some rows) (n : Nat) :
    relation.loadTimes n store = (List.replicate n (.ok rows), relation, store) := by
  induction n with
  | zero => rfl
  | succ n ih =>
    rw [loadTimes, load_of_loaded loaded]
    simp only [ih, List.replicate_succ]

theorem loadTimes_of_ok (empty : relation.loaded = none)
    (answer : (relation.query.fetch model store).1 = .ok rows) (n : Nat) :
    relation.loadTimes (n + 1) store =
      (List.replicate (n + 1) (.ok rows), { relation with loaded := some rows },
        (relation.query.fetch model store).2) := by
  have loaded : ({ relation with loaded := some rows } : Relation model).loaded = some rows := rfl
  rw [loadTimes, load_of_unloaded empty, answer]
  simp only [Except.toOption, loadTimes_of_loaded loaded, List.replicate_succ]

/-- A store that keeps failing is asked by every load. -/
theorem loadTimes_of_error (empty : relation.loaded = none)
    (steady : Steady (relation.query.fetch model) store (.error e)) (n : Nat) :
    relation.loadTimes n store = (List.replicate n (.error e), relation,
      (Prod.snd ∘ relation.query.fetch model)^[n] store) := by
  induction n generalizing store with
  | zero => rfl
  | succ n ih =>
    have fails : (relation.query.fetch model store).1 = .error e := steady 0
    have same : { relation with loaded := none } = relation := by rw [← empty]
    rw [loadTimes, load_of_unloaded empty, fails]
    simp only [Except.toOption, same, ih steady.next, List.replicate_succ]
    rfl

end Relation

end TableQuery
