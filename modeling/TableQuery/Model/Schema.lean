import TableQuery.Model.Basic

/-!
# Schemas

A schema lists the attributes that an instance is made of, each with the type it is read as and
whether it may be missing. Attributes are read in the order of the schema, and the first one that
cannot be read is reported.
-/

namespace TableQuery

/-- A datum of one of the target types. -/
inductive Datum where
  | bool (b : Bool)
  | int (n : Int64)
  | float (x : Float)
  | text (s : String)
  | texts (items : List String)

/-- An attribute of a schema. -/
structure SchemaEntry where
  name : String
  target : Target
  /-- A null value is nothing instead of a mismatch. -/
  nullable : Bool

/-- A record read by a schema. -/
structure Instance where
  id : Option String
  attributes : List (String × Option Datum)

namespace SchemaEntry

/-- The attribute as a given type, wrapped as a datum. -/
def readAs {α : Type} [FromValue α] (entry : SchemaEntry) (datum : α → Datum)
    (mapping : FieldMapping) (record : Record) : Except Error (Option Datum) :=
  if entry.nullable then (record.readOptional mapping entry.name).map (Option.map datum)
  else (record.readAs mapping entry.name).map fun a => some (datum a)

/-- The attribute's datum in a record. -/
def read (entry : SchemaEntry) (mapping : FieldMapping) (record : Record) :
    Except Error (Option Datum) :=
  match entry.target with
  | .bool => entry.readAs Datum.bool mapping record
  | .int => entry.readAs Datum.int mapping record
  | .float => entry.readAs Datum.float mapping record
  | .text => entry.readAs Datum.text mapping record
  | .texts => entry.readAs Datum.texts mapping record

end SchemaEntry

/-- Reads all the attributes of a schema. -/
def Instance.ofRecord (schema : List SchemaEntry) (mapping : FieldMapping) (record : Record) :
    Except Error Instance := do
  let attributes ← schema.mapM fun entry => do
    let datum ← entry.read mapping record
    return (entry.name, datum)
  return { id := record.id, attributes }

end TableQuery
