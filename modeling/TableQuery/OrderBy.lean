import TableQuery.Error
import TableQuery.FetchParams
import TableQuery.FieldMapping

/-!
# Sort keys of queries

A query is sorted by attributes; compilation turns each into the column to sort by.
-/

namespace TableQuery

/-- An attribute to sort by. -/
structure OrderBy where
  field : String
  direction : SortDirection
  deriving DecidableEq, Repr

namespace OrderBy

def asc (field : String) : OrderBy := ⟨field, .asc⟩

def desc (field : String) : OrderBy := ⟨field, .desc⟩

/-- The same key, sorted the other way round. -/
def reversed (key : OrderBy) : OrderBy := { key with direction := key.direction.reverse }

/-- The key with the column of its attribute. Both must have a name. -/
def compile (mapping : FieldMapping) (key : OrderBy) : Except Error SortField :=
  if key.field.isEmpty then .error (.invalidField none .emptySortName)
  else
    let column := mapping.resolve key.field
    if column.isEmpty then .error (.invalidField (some key.field) .emptySortColumn)
    else .ok { column, direction := key.direction }

end OrderBy

end TableQuery
