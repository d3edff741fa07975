import TableQuery.Error
import TableQuery.FieldMapping
import TableQuery.Json.Layer
import TableQuery.Value.Json

/-!
# Records

A record is a row of a table as the store returns it: an identifier, the time of its creation, and
its cells by column. Cells hold JSON documents; an absent cell reads as null. Attributes are read
through a field mapping, plainly or as one of the target types.
-/

namespace TableQuery

/-- The cells of a record, by column. -/
abbrev Cells := Std.TreeMap String Json

/-- The object with a record's cells as its members. -/
def Cells.toJson (cells : Cells) : Json := .obj cells.toList

/-- A row of a table. -/
structure Record where
  id : Option String
  /-- The time of creation, in the store's words. -/
  createdTime : Option String := none
  cells : Cells := ∅

namespace Record

instance : Inhabited Record := ⟨{ id := none }⟩

/-- Records are equal when all their parts are; cells compare as documents do. -/
instance : BEq Record :=
  ⟨fun a b => a.id == b.id && a.createdTime == b.createdTime && a.cells.toJson == b.cells.toJson⟩

/-- A record without cells. -/
def new (id : String) : Record := { id := some id }

/-- The record with a value written to a column. -/
def setCell (record : Record) (column : String) (value : Value) : Record :=
  { record with cells := record.cells.insert column value.toJson }

/-! ## Reading attributes -/

/-- The value in a column; an absent cell is null. -/
def cell (record : Record) (column : String) : Value :=
  match record.cells[column]? with
  | some document => .ofJson document
  | none => .null

/-- The attribute is a tick box. -/
def isBoolean (mapping : FieldMapping) (name : String) : Bool :=
  (mapping.get? name).any (·.kind == .boolean)

/-- The value of an attribute; null reads as false for a tick box. -/
def attributeOf (record : Record) (mapping : FieldMapping) (name : String) : Value :=
  let value := record.cell (mapping.resolve name)
  if isBoolean mapping name && value.isNull then .bool false else value

/-- The value of an attribute as a target type; a mismatch names the attribute. -/
def readAs {α : Type} [FromValue α] (record : Record) (mapping : FieldMapping) (name : String) :
    Except Error α :=
  match fromValue (record.attributeOf mapping name) with
  | .ok a => .ok a
  | .error mismatch => .error (.typeMismatch { mismatch with field := some name })

/-- The value of an attribute as a target type, or nothing if it is null. -/
def readOptional {α : Type} [FromValue α] (record : Record) (mapping : FieldMapping)
    (name : String) : Except Error (Option α) :=
  if (record.attributeOf mapping name).isNull then .ok none
  else (record.readAs mapping name).map some

/-- The attribute holds something; a tick box must be ticked. -/
def isPresent (record : Record) (mapping : FieldMapping) (name : String) : Bool :=
  let value := record.attributeOf mapping name
  if isBoolean mapping name then value.asBool?.getD false else value.isPresent

/-! ## All cells -/

/-- The cells that may be written back: those of columns that are not read-only. -/
def writableCells (record : Record) (mapping : FieldMapping) : Cells :=
  record.cells.filter fun column _ => !mapping.isReadonly column

/-- The values of all cells under the attributes that answer for their columns, in the order of the
columns. A column without an attribute keeps its name. -/
def attributes (record : Record) (mapping : FieldMapping) : List (String × Value) :=
  record.cells.toList.map fun (column, document) =>
    ((mapping.nameFor? column).getD column, .ofJson document)

/-! ## JSON text -/

/-- The text of a record: its identifier, its creation time if it has one, and its cells. -/
def render (record : Record) : String :=
  let text (s : Option String) := (s.map Json.quote).getD "null"
  let created := match record.createdTime with
    | some time => [("createdTime", Json.quote time)]
    | none => []
  Json.braced ([("id", text record.id)] ++ created ++ [("fields", record.cells.toJson.render)])

variable {σ : Type} [Json.Layered σ]

/-- The cells of an object. -/
def readCells? (source : σ) : Option Cells := do
  match ← Json.layer? source with
  | .obj members =>
    let cells ← members.mapM fun (column, value) => do
      some (column, ← Json.Layered.toJson? value)
    some (.ofList cells)
  | _ => none

/-- The record in a document. The identifier may be missing in an object but not in an array. -/
def ofSource? (source : σ) : Option Record := do
  match ← Json.structure? ["id", "createdTime", "fields"] 1 source with
  | [id, createdTime, fields] =>
    let id ← Json.optional? Json.string? id
    let createdTime ← Json.optional? Json.string? createdTime
    let cells ← match fields with
      | some source => readCells? source
      | none => some ∅
    some { id, createdTime, cells }
  | _ => none

/-- The record in a text. -/
def read? (text : String) : Option Record := (Json.source? text).bind ofSource?

end Record

end TableQuery
