import TableQuery.FetchParams
import TableQuery.Record

/-!
# Stores

A store returns the records of a table that match given parameters. It may change with every fetch,
so a fetch takes the store's state and returns the next one, also when it fails.
-/

namespace TableQuery

/-- The address of a table. -/
structure TableRef where
  /-- The base that holds the table. -/
  baseKey : Option String
  table : String
  deriving DecidableEq, Repr

/-- States of a store that can be fetched from. -/
class Store (σ : Type) where
  fetch : TableRef → FetchParams → σ → Except Error (List Record) × σ

/-- The part of a list that the parameters ask for: first the offset is skipped, then no more than
the greatest number of records is kept. -/
def FetchParams.window {α : Type} (params : FetchParams) (records : List α) : List α :=
  let kept := records.drop ((params.offset.map UInt64.toNat).getD 0)
  match params.maxRecords with
  | some n => kept.take n.toNat
  | none => kept

end TableQuery
