import TableQuery.Store.Basic

/-!
# Models

A model says which table its instances live in, how its attributes map to columns, and how an
instance is made of a record.
-/

namespace TableQuery

/-- A model with instances of type `α`. -/
structure Model (α : Type) where
  table : String
  baseKey : Option String := none
  /-- The attribute with the time of creation, by which records are ordered when the first ones are
  asked for and nothing else is said. -/
  createdField : Option String := none
  mapping : FieldMapping := .empty
  /-- The instance of a record. -/
  ofRecord : Record → Except Error α

/-- The address of the model's table. -/
def Model.tableRef {α : Type} (model : Model α) : TableRef :=
  { baseKey := model.baseKey, table := model.table }

end TableQuery
