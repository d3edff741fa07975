import TableQuery.Json.Layer
import TableQuery.Json.Printer

/-!
# Parameters of a fetch

What a store is asked for: a formula that the records satisfy, the columns they are sorted by, how
many records at most, and how many are skipped. Each part may be missing. Parameters are sent as
JSON text with the parts that are set, and can be read back from it.
-/

namespace TableQuery

/-! ## Sort keys -/

inductive SortDirection where
  | asc
  | desc
  deriving DecidableEq, Repr

namespace SortDirection

/-- Ascending, unless something else is said. -/
instance : Inhabited SortDirection := ⟨.asc⟩

def name : SortDirection → String
  | .asc => "asc"
  | .desc => "desc"

def ofName? : String → Option SortDirection
  | "asc" => some .asc
  | "desc" => some .desc
  | _ => none

def reverse : SortDirection → SortDirection
  | .asc => .desc
  | .desc => .asc

theorem ofName?_name (direction : SortDirection) : ofName? direction.name = some direction := by
  cases direction <;> rfl

/-- The direction in a document: its name, or an object whose only member has that name and null. -/
def ofSource? {σ : Type} [Json.Layered σ] (source : σ) : Option SortDirection := do
  match ← Json.layer? source with
  | .str name => ofName? name
  | .obj [(name, value)] =>
    let direction ← ofName? name
    Json.null? value
    some direction
  | _ => none

end SortDirection

/-- A column to sort by. -/
structure SortField where
  column : String
  direction : SortDirection
  deriving DecidableEq, Repr

namespace SortField

def render (key : SortField) : String :=
  Json.braced [("field", Json.quote key.column), ("direction", Json.quote key.direction.name)]

def ofSource? {σ : Type} [Json.Layered σ] (source : σ) : Option SortField := do
  match ← Json.structure? ["field", "direction"] 2 source with
  | [some column, some direction] =>
    some { column := ← Json.string? column, direction := ← SortDirection.ofSource? direction }
  | _ => none

end SortField

/-! ## Parameters -/

structure FetchParams where
  filter : Option String := none
  /-- The columns to sort by, the most significant first. -/
  sort : List SortField := []
  maxRecords : Option UInt64 := none
  offset : Option UInt64 := none
  deriving DecidableEq, Repr

namespace FetchParams

/-- No part is set. -/
def isEmpty (params : FetchParams) : Bool :=
  params.filter.isNone && params.sort.isEmpty && params.maxRecords.isNone && params.offset.isNone

/-- The members of the text: one for each part that is set. -/
def members (params : FetchParams) : List (String × String) :=
  let number (n : UInt64) := Decimal.writeInt n.toNat
  (params.filter.map fun formula => ("filter", Json.quote formula)).toList
    ++ (if params.sort.isEmpty then []
      else [("sort", Json.bracketed (params.sort.map SortField.render))])
    ++ (params.maxRecords.map fun n => ("max_records", number n)).toList
    ++ (params.offset.map fun n => ("offset", number n)).toList

/-- The JSON text of the parameters. -/
def render (params : FetchParams) : String := Json.braced params.members

variable {σ : Type} [Json.Layered σ]

/-- The parameters in a document. -/
def ofSource? (source : σ) : Option FetchParams := do
  match ← Json.structure? ["filter", "sort", "max_records", "offset"] 0 source with
  | [filter, sort, maxRecords, offset] =>
    let sort ← match sort with
      | some source => Json.list? SortField.ofSource? source
      | none => some []
    some
      { filter := ← Json.optional? Json.string? filter
        sort
        maxRecords := ← Json.optional? Json.uint64? maxRecords
        offset := ← Json.optional? Json.uint64? offset }
  | _ => none

/-- The parameters in a text. -/
def read? (text : String) : Option FetchParams := (Json.source? text).bind ofSource?

end FetchParams

end TableQuery
