import TableQuery.Proofs.Json.Parts
import TableQuery.Value.Json

/-!
# Values to documents and back

A value that is written as a document and read again comes back with null in the place of every
double that is not finite, its `finitePart`. A document that is read as a value and written again
comes back unchanged just if it has no object, which would become a text, and no integer beyond 64
signed bits, which would become a double: `toJson_ofJson` and `fits_of_beq`. No reading gives a
double that is not finite, so a second round changes nothing.
-/

namespace TableQuery

/-! ## Numbers of documents -/

namespace Json.Number

variable {n : Int} {inRange : -Int.pow 2 63 ≤ n ∧ n < Int.pow 2 64}

theorem maxValue_eq : Int64.maxValue.toInt = Int.pow 2 63 - 1 := by decide

theorem toInt64?_ofInt64 (n : Int64) : (ofInt64 n).toInt64? = some n := by
  have small : n.toInt < Int.pow 2 63 := n.toInt_lt
  rw [ofInt64, toInt64?, if_pos small, Int64.ofInt_toInt]

theorem toInt64?_whole (small : n ≤ Int64.maxValue.toInt) :
    ∃ i, (whole n inRange).toInt64? = some i ∧ ofInt64 i = whole n inRange := by
  rw [maxValue_eq] at small
  have fits : n < Int.pow 2 63 := Int.lt_of_le_sub_one small
  refine ⟨Int64.ofInt n, if_pos fits, ?_⟩
  rw [ofInt64, whole.injEq]
  exact Int64.toInt_ofInt_of_le inRange.1 fits

theorem toInt64?_whole_eq_none (large : ¬n ≤ Int64.maxValue.toInt) :
    (whole n inRange).toInt64? = none := by
  rw [maxValue_eq] at large
  exact if_neg fun fits => large (Int.le_sub_one_of_lt fits)

theorem isFinite_toFloat (n : Number) : n.toFloat.isFinite = true := by
  cases n with
  | whole n _ => exact Double.isFinite_doubleOfInt n
  | real _ finite => exact finite

theorem ofFloat?_of_isFinite {x : Float} (finite : x.isFinite = true) :
    ofFloat? x = some (real x finite) :=
  dif_pos finite

end Json.Number

namespace Value

open Json (Objectless Signed)

/-! ## The parts of values -/

/-- Induction over values, with the statement for every item of a list. -/
@[elab_as_elim, induction_eliminator]
theorem induction {motive : Value → Prop}
    (null : motive .null)
    (bool : ∀ b, motive (.bool b))
    (int : ∀ n, motive (.int n))
    (float : ∀ x, motive (.float x))
    (text : ∀ s, motive (.text s))
    (list : ∀ items, (∀ item ∈ items, motive item) → motive (.list items))
    (value : Value) : motive value := by
  refine @Value.rec motive (fun items => ∀ item ∈ items, motive item)
    null bool int float text list nofun ?items value
  case items =>
    intro first rest here there
    exact List.forall_mem_cons.2 ⟨here, there⟩

/-- The parts one layer down: the items of a list. -/
def children : Value → List Value
  | .list items => items
  | _ => []

theorem inside_list {part : Value} {items : List Value} :
    Inside children part (.list items) ↔
      .list items = part ∨ ∃ item ∈ items, Inside children part item :=
  inside_iff

/-- Every double that stands anywhere in the value is finite. -/
def AllFinite (value : Value) : Prop :=
  ∀ x, Inside children (.float x) value → x.isFinite = true

theorem allFinite_list {items : List Value} :
    AllFinite (.list items) ↔ ∀ item ∈ items, AllFinite item := by
  simp only [AllFinite, inside_list, reduceCtorEq, false_or, forall_exists_index, and_imp]
  exact ⟨fun all item member x => all x item member, fun all x item member => all item member x⟩

theorem allFinite_of_leaf {value : Value} (leaf : value.children = [])
    (kind : ∀ x, value = .float x → x.isFinite = true) : AllFinite value :=
  fun x inside => kind x ((inside_of_leaf leaf).1 inside)

mutual

/-- The value with null in the place of every double that is infinite or not a number. -/
def finitePart : Value → Value
  | .float x => if x.isNaN || x.isInf then .null else .float x
  | .list items => .list (finiteParts items)
  | value => value

def finiteParts : List Value → List Value
  | [] => []
  | item :: rest => finitePart item :: finiteParts rest

end

theorem finiteParts_eq_map (items : List Value) : finiteParts items = items.map finitePart := by
  induction items with
  | nil => rfl
  | cons item rest ih => rw [finiteParts, ih, List.map_cons]

theorem finitePart_list (items : List Value) :
    (list items).finitePart = .list (items.map finitePart) := by
  rw [finitePart, finiteParts_eq_map]

theorem finitePart_of_finite {x : Float} (finite : x.isFinite = true) :
    (float x).finitePart = .float x := by
  obtain ⟨number, bounded⟩ := Double.isFinite_iff.1 finite
  simp only [finitePart, number, bounded, Bool.or_false, Bool.false_eq_true, if_false]

theorem finitePart_of_not_finite {x : Float} (infinite : ¬x.isFinite = true) :
    (float x).finitePart = .null := by
  rw [finitePart, if_pos]
  cases number : x.isNaN with
  | true => rfl
  | false =>
    cases bounded : x.isInf with
    | true => rfl
    | false => exact absurd (Double.isFinite_iff.2 ⟨number, bounded⟩) infinite

theorem finitePart_eq_self {value : Value} (finite : AllFinite value) :
    value.finitePart = value := by
  induction value with
  | null | bool | int | text => rfl
  | float x => exact finitePart_of_finite (finite x .refl)
  | list items ih =>
    have same : items.map finitePart = items.map id :=
      List.map_congr_left fun item member => ih item member (allFinite_list.1 finite item member)
    rw [finitePart_list, same, List.map_id]

/-! ## Layers -/

theorem itemsToJson_eq_map (items : List Value) : itemsToJson items = items.map toJson := by
  induction items with
  | nil => rfl
  | cons item rest ih => rw [itemsToJson, ih, List.map_cons]

theorem toJson_list (items : List Value) : (list items).toJson = .arr (items.map toJson) := by
  rw [toJson, itemsToJson_eq_map]

theorem toJson_float {x : Float} (finite : x.isFinite = true) :
    (float x).toJson = .num (.real x finite) := by
  rw [toJson, Json.Number.ofFloat?_of_isFinite finite]

theorem ofItems_eq_map (items : List Json) : ofItems items = items.map ofJson := by
  induction items with
  | nil => rfl
  | cons item rest ih => rw [ofItems, ih, List.map_cons]

theorem ofJson_arr (items : List Json) : ofJson (.arr items) = .list (items.map ofJson) := by
  rw [ofJson, ofItems_eq_map]

/-! ## From values and back -/

theorem ofJson_toJson (value : Value) : ofJson value.toJson = value.finitePart := by
  induction value with
  | null | bool | text => rfl
  | int n =>
    rw [toJson, ofJson, Json.Number.toInt64?_ofInt64]
    rfl
  | float x =>
    by_cases finite : x.isFinite = true
    · rw [toJson_float finite, finitePart_of_finite finite]
      rfl
    · rw [toJson, Json.Number.ofFloat?, dif_neg finite, finitePart_of_not_finite finite]
      rfl
  | list items ih =>
    rw [toJson_list, ofJson_arr, finitePart_list, List.map_map]
    exact congrArg list (List.map_congr_left ih)

/-! ## From documents and back -/

theorem allFinite_ofJson (document : Json) : AllFinite (ofJson document) := by
  induction document with
  | null | bool | str | obj => exact allFinite_of_leaf rfl nofun
  | num n =>
    rw [ofJson]
    split
    · exact allFinite_of_leaf rfl nofun
    · refine allFinite_of_leaf rfl ?_
      rintro _ ⟨⟩
      exact n.isFinite_toFloat
  | arr items ih =>
    rw [ofJson_arr, allFinite_list]
    exact List.forall_mem_map.2 ih

/-- An integer beyond 64 signed bits comes back as a double. -/
theorem toJson_ofJson_large {n : Int} {inRange : -Int.pow 2 63 ≤ n ∧ n < Int.pow 2 64}
    (large : ¬n ≤ Int64.maxValue.toInt) :
    (ofJson (.num (.whole n inRange))).toJson =
      .num (.real (doubleOfInt n) (Double.isFinite_doubleOfInt n)) := by
  rw [ofJson, Json.Number.toInt64?_whole_eq_none large]
  exact toJson_float (Double.isFinite_doubleOfInt n)

theorem toJson_ofJson {document : Json} (objectless : Objectless document)
    (signed : Signed document) : (ofJson document).toJson = document := by
  induction document with
  | null | bool | str => rfl
  | num n =>
    cases n with
    | whole n inRange =>
      obtain ⟨i, read, written⟩ := Json.Number.toInt64?_whole (signed n inRange .refl)
      rw [ofJson, read]
      exact congrArg Json.num written
    | real x finite => exact toJson_float finite
  | arr items ih =>
    have same : items.map (toJson ∘ ofJson) = items.map id := List.map_congr_left fun item member =>
      ih item member (Json.objectless_arr.1 objectless item member)
        (Json.signed_arr.1 signed item member)
    rw [ofJson_arr, toJson_list, List.map_map, same, List.map_id]
  | obj members => exact absurd objectless (Json.not_objectless_obj members)

/-- A document that comes back equal, as documents compare, has nothing that a value cannot hold. -/
theorem fits_of_beq {document : Json} (same : ((ofJson document).toJson == document) = true) :
    Objectless document ∧ Signed document := by
  induction document with
  | null | bool | str =>
    exact ⟨Json.objectless_of_leaf rfl nofun, Json.signed_of_leaf rfl fun _ => nofun⟩
  | num n =>
    refine ⟨Json.objectless_of_leaf rfl nofun, Json.signed_num ?_⟩
    rintro n inRange rfl
    refine Decidable.byContradiction fun large => ?_
    rw [toJson_ofJson_large large] at same
    cases same
  | arr items ih =>
    rw [ofJson_arr, toJson_list, List.map_map] at same
    have each := (Json.beqItems_map (toJson ∘ ofJson)).1 same
    exact ⟨Json.objectless_arr.2 fun item member => (ih item member (each item member)).1,
      Json.signed_arr.2 fun item member => (ih item member (each item member)).2⟩
  | obj members => cases same

/-- Writing a value as a document and reading it back only puts null in the place of doubles that
are not finite. Reading a document and writing it back gives the same document, by identity as well
as by comparison, just if the document has no object and no integer beyond 64 signed bits; the
reading is always that of what is written back, and has no double that is not finite. -/
theorem conversions_agree :
    (∀ value : Value, ofJson value.toJson = value.finitePart) ∧
    (∀ document : Json,
      ((ofJson document).toJson = document ↔ Objectless document ∧ Signed document) ∧
      (((ofJson document).toJson == document) = true ↔ Objectless document ∧ Signed document) ∧
      ofJson (ofJson document).toJson = ofJson document ∧
      ∀ x, Inside children (.float x) (ofJson document) → x.isFinite = true) := by
  refine ⟨ofJson_toJson, fun document => ?_⟩
  refine ⟨⟨?_, ?_⟩, ⟨fits_of_beq, ?_⟩, ?_, allFinite_ofJson document⟩
  · intro same
    refine fits_of_beq ?_
    rw [same]
    exact Json.beq_self document
  · exact fun ⟨objectless, signed⟩ => toJson_ofJson objectless signed
  · rintro ⟨objectless, signed⟩
    rw [toJson_ofJson objectless signed]
    exact Json.beq_self document
  · rw [ofJson_toJson]
    exact finitePart_eq_self (allFinite_ofJson document)

theorem conversions_agree_of_list :
    let value : Value := .list [.float (0.0 / 0.0), .list [.int (-1), .float 2.0]]
    let large : Json := .arr [.null, .arr [.num (.whole (Int.pow 2 63) (by decide))]]
    ofJson value.toJson = .list [.null, .list [.int (-1), .float 2.0]] ∧
    (ofJson large).toJson ≠ large ∧
    Inside children (.float (doubleOfInt (Int.pow 2 63))) (ofJson large) ∧
    (doubleOfInt (Int.pow 2 63)).isFinite = true := by
  intro value large
  obtain ⟨written, read⟩ := conversions_agree
  obtain ⟨same, _, _, finite⟩ := read large
  have inside : Inside children (.float (doubleOfInt (Int.pow 2 63))) (ofJson large) := by
    refine inside_list.2 (.inr ⟨_, .tail _ (.head _), inside_list.2 (.inr ⟨_, .head _, ?_⟩)⟩)
    exact inside_iff.2 (.inl rfl)
  refine ⟨?_, ?_, inside, finite _ inside⟩
  · rw [written]
    rfl
  · intro back
    have small := (same.1 back).2 (Int.pow 2 63) (by decide) ?_
    · exact absurd small (by decide)
    · refine Json.inside_arr.2 (.inr ⟨_, .tail _ (.head _), ?_⟩)
      exact Json.inside_arr.2 (.inr ⟨_, .head _, .refl⟩)

end Value

end TableQuery
