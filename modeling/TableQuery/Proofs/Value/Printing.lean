import TableQuery.Proofs.Value.PlainReading
import TableQuery.Record

/-!
# The two writings of a value

A value is written to JSON text at once by `render`, or as a document first, which is written then.
Both give one text, so a cell of a record is written like the value that was put into it. Doubles
that are not finite are null in both, at every depth: each text is that of the value's `finitePart`,
and `partAt?_toJson` leads every part of a value to its place in the document.
-/

namespace TableQuery

namespace Json

theorem renderItems_eq_map (items : List Json) : renderItems items = items.map render := by
  induction items with
  | nil => rfl
  | cons item rest ih => rw [renderItems, ih, List.map_cons]

theorem render_arr (items : List Json) : (arr items).render = bracketed (items.map render) := by
  rw [render, renderItems_eq_map]

end Json

namespace Value

/-! ## Texts -/

theorem renderItems_eq_map (items : List Value) : renderItems items = items.map render := by
  induction items with
  | nil => rfl
  | cons item rest ih => rw [renderItems, ih, List.map_cons]

theorem render_list (items : List Value) :
    (list items).render = Json.bracketed (items.map render) := by
  rw [render, renderItems_eq_map]

theorem render_toJson (value : Value) : value.toJson.render = value.render := by
  induction value with
  | null | int | text => rfl
  | bool b => cases b <;> rfl
  | float x =>
    by_cases finite : x.isFinite = true
    · rw [toJson_float finite, render, if_pos finite]
      rfl
    · rw [toJson, Json.Number.ofFloat?, dif_neg finite, render, if_neg finite]
      rfl
  | list items ih =>
    rw [toJson_list, Json.render_arr, render_list, List.map_map]
    exact congrArg Json.bracketed (List.map_congr_left ih)

/-! ## Doubles that are not finite -/

theorem allFinite_finitePart (value : Value) : AllFinite value.finitePart := by
  rw [← ofJson_toJson]
  exact allFinite_ofJson value.toJson

/-- The document of a value does not tell which doubles have become null. -/
theorem toJson_finitePart (value : Value) : value.finitePart.toJson = value.toJson := by
  induction value with
  | null | bool | int | text => rfl
  | float x =>
    by_cases finite : x.isFinite = true
    · rw [finitePart_of_finite finite]
    · rw [finitePart_of_not_finite finite, toJson, toJson, Json.Number.ofFloat?, dif_neg finite]
  | list items ih =>
    rw [finitePart_list, toJson_list, toJson_list, List.map_map]
    exact congrArg Json.arr (List.map_congr_left ih)

theorem render_finitePart (value : Value) : value.finitePart.render = value.render := by
  rw [← render_toJson, toJson_finitePart, render_toJson]

theorem items_toJson (value : Value) : value.toJson.items = value.children.map toJson := by
  cases value with
  | null | bool | int | text => rfl
  | float x =>
    rw [toJson]
    split <;> rfl
  | list items =>
    rw [toJson_list]
    rfl

/-- Every part of a value is written in its place. -/
theorem partAt?_toJson (path : List Nat) (value : Value) :
    partAt? Json.items path value.toJson = (partAt? children path value).map toJson :=
  partAt?_map items_toJson path value

/-- The text of a value is that of its document, and the cell that a value is written to has this
text as well. Both texts are those of the value with null in the place of every double that is not
finite, and in the document null stands wherever such a double stands in the value. -/
theorem writings_agree (value : Value) :
    value.render = value.toJson.render ∧
    (∀ (record : Record) (column : String),
      (record.setCell column value).cells[column]?.map Json.render = some value.render) ∧
    AllFinite value.finitePart ∧
    value.render = value.finitePart.render ∧
    value.toJson.render = value.finitePart.toJson.render ∧
    ∀ path x, partAt? children path value = some (.float x) → ¬x.isFinite = true →
      partAt? Json.items path value.toJson = some .null := by
  refine ⟨(render_toJson value).symm, ?_, allFinite_finitePart value,
    (render_finitePart value).symm, ?_, ?_⟩
  · intro record column
    have written : (record.setCell column value).cells[column]? = some value.toJson :=
      Std.TreeMap.getElem?_insert_self
    rw [written, Option.map_some, render_toJson]
  · rw [toJson_finitePart]
  · intro path x place infinite
    rw [partAt?_toJson, place, Option.map_some, toJson, Json.Number.ofFloat?, dif_neg infinite]

theorem writings_agree_of_nested_infinity :
    let value : Value := .list [.float (0.0 / 0.0), .list [.int (-1), .float (1.0 / 0.0)]]
    let record := (Record.new "rec1").setCell "Total" value
    value.toJson.render = "[null,[-1,null]]" ∧
    record.cells["Total"]?.map Json.render = some "[null,[-1,null]]" ∧
    partAt? children [1, 1] value = some (.float (1.0 / 0.0)) ∧
    ¬(1.0 / 0.0 : Float).isFinite = true ∧
    partAt? Json.items [1, 1] value.toJson = some .null := by
  intro value record
  have text : value.render = "[null,[-1,null]]" := by decide +kernel
  have place : partAt? children [1, 1] value = some (.float (1.0 / 0.0)) := rfl
  have infinite : ¬(1.0 / 0.0 : Float).isFinite = true := by decide +kernel
  obtain ⟨same, cells, _, _, _, nulls⟩ := writings_agree value
  refine ⟨same.symm.trans text, ?_, place, infinite, nulls [1, 1] _ place infinite⟩
  rw [← text]
  exact cells (.new "rec1") "Total"

end Value

end TableQuery
