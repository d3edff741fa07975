import TableQuery.Scope
import TableQuery.Text.Inspect

/-!
# Inspected relations and registries

The one-line form in which a relation or a registry is shown to a developer: the name of the kind
and its parts between braces. Texts are inspected texts. Doubles always have a point in plain
notation, which is used from `0.0001` up to `10 ^ 16`.
-/

namespace TableQuery

namespace Inspect

/-- Inspected doubles. -/
def doubleLayout : Decimal.Layout :=
  { plain := some (-4, 15), pointOnWhole := true, plusSign := false, tie := .up }

def double (x : Float) : String :=
  if x.isFinite then doubleLayout.write x else Decimal.nonFiniteName x

def truth (b : Bool) : String := if b then "true" else "false"

/-- A name with its contents between parentheses. -/
def wrapped (name contents : String) : String := name ++ "(" ++ contents ++ ")"

/-- A name with its parts between braces. -/
def parts (name : String) (fields : List (String × String)) : String :=
  let written := fields.map fun (field, value) => field ++ ": " ++ value
  name ++ " \x7b " ++ ", ".intercalate written ++ " \x7d"

def listed (items : List String) : String := "[" ++ ", ".intercalate items ++ "]"

def natural? (n : Option UInt64) : String :=
  match n with
  | some n => wrapped "Some" (Decimal.writeInt n.toNat)
  | none => "None"

end Inspect

open Inspect

mutual

def Value.inspect : Value → String
  | .null => "Null"
  | .bool b => wrapped "Bool" (truth b)
  | .int n => wrapped "Int" (Decimal.writeInt n.toInt)
  | .float x => wrapped "Float" (double x)
  | .text s => wrapped "Text" (Text.inspect s)
  | .list items => wrapped "List" (listed (Value.inspectItems items))

def Value.inspectItems : List Value → List String
  | [] => []
  | item :: rest => Value.inspect item :: Value.inspectItems rest

end

mutual

def Condition.inspect : Condition → String
  | .equals field value =>
    parts "Equals" [("field", Text.inspect field), ("value", value.inspect)]
  | .range field lower upper =>
    parts "Range"
      [("field", Text.inspect field), ("lower", lower.inspect), ("upper", upper.inspect)]
  | .oneOf field values =>
    parts "OneOf"
      [("field", Text.inspect field), ("values", listed (Value.inspectItems values))]
  | .raw formula => wrapped "Raw" (Text.inspect formula)
  | .and children => wrapped "And" (listed (Condition.inspectChildren children))

def Condition.inspectChildren : List Condition → List String
  | [] => []
  | child :: rest => Condition.inspect child :: Condition.inspectChildren rest

end

def OrderBy.inspect (key : OrderBy) : String :=
  let direction := match key.direction with
    | .asc => "Asc"
    | .desc => "Desc"
  parts "OrderBy" [("field", Text.inspect key.field), ("direction", direction)]

def Relation.inspect {α : Type} {model : Model α} (relation : Relation model) : String :=
  parts "Relation"
    [("table", Text.inspect model.table),
      ("conditions", listed (relation.query.conditions.map Condition.inspect)),
      ("order", listed (relation.query.order.map OrderBy.inspect)),
      ("limit", natural? relation.query.limit), ("offset", natural? relation.query.offset),
      ("loaded", truth relation.isLoaded)]

def ScopeRegistry.inspect (registry : ScopeRegistry) : String :=
  parts "ScopeRegistry"
    [("table", Text.inspect registry.table), ("scopes", listed (registry.names.map Text.inspect))]

end TableQuery
