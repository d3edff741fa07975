import TableQuery.Condition
import TableQuery.FieldMapping
import TableQuery.Formula.Literal

/-!
# Formulas

A formula is what the store filters by: comparisons of columns with literals, joined by `AND` and
`OR`. Conditions are compiled into formulas: attributes become columns, a range becomes a pair of
comparisons, and a membership test one equality per value. Conditions that hold of every record
leave nothing behind, so the conjunction of what is left may be empty; a conjunction of one is that
one.
-/

namespace TableQuery

/-- The comparisons of formulas. -/
inductive Formula.Comparison where
  | eq
  | ge
  | lt
  deriving DecidableEq, Repr

/-- A formula of the store. -/
inductive Formula where
  | compare (column : String) (comparison : Formula.Comparison) (literal : Formula.Literal)
  /-- A formula given in the store's words. -/
  | raw (text : String)
  | all (parts : List Formula)
  | any (parts : List Formula)

namespace Formula

instance : Inhabited Formula := ⟨.all []⟩

/-! ## Text -/

def Comparison.symbol : Comparison → String
  | .eq => "="
  | .ge => ">="
  | .lt => "<"

/-- A column between braces. -/
def columnRef (column : String) : String := "\x7b" ++ column ++ "\x7d"

/-- A function applied to written arguments. -/
def call (function : String) (arguments : List String) : String :=
  function ++ "(" ++ ", ".intercalate arguments ++ ")"

mutual

/-- The text of a formula. -/
def render : Formula → String
  | .compare column comparison literal =>
    columnRef column ++ " " ++ comparison.symbol ++ " " ++ literal.render
  | .raw text => text
  | .all parts => call "AND" (renderParts parts)
  | .any parts => call "OR" (renderParts parts)

def renderParts : List Formula → List String
  | [] => []
  | part :: rest => render part :: renderParts rest

end

/-- The conjunction of formulas: nothing of none, and the formula itself of one. -/
def conjunction : List Formula → Option Formula
  | [] => none
  | [part] => some part
  | parts => some (.all parts)

/-! ## Compilation -/

/-- The column of a condition's attribute. Both must have a name. -/
def column (mapping : FieldMapping) (field : String) : Except Error String :=
  if field.isEmpty then .error (.invalidField none .emptyName)
  else
    let column := mapping.resolve field
    if column.isEmpty then .error (.invalidField (some field) .emptyColumn) else .ok column

/-- The reference to an attribute's column. -/
def reference (mapping : FieldMapping) (field : String) : Except Error String :=
  (column mapping field).map columnRef

end Formula

namespace Condition

open Formula in
mutual

/-- The formula of a condition, if it restricts anything. The first fault is reported: in a
comparison that of the attribute, then a missing value, then the values from left to right. -/
def compile (mapping : FieldMapping) : Condition → Except Error (Option Formula)
  | .equals field value => do
    let column ← column mapping field
    let value ← literal field value
    return some (.compare column .eq value)
  | .range field lower upper => do
    let column ← column mapping field
    let lower ← literal field lower
    let upper ← literal field upper
    return some (.all [.compare column .ge lower, .compare column .lt upper])
  | .oneOf field values => do
    let column ← column mapping field
    if values.isEmpty then throw (.invalidField (some field) .noValues)
    let literals ← values.mapM (literal field)
    return some (.any (literals.map (.compare column .eq ·)))
  | .raw formula => .ok (if Text.isBlank formula then none else some (.raw formula))
  | .and children => do
    let parts ← compileAll mapping children
    return conjunction parts

/-- The formulas of those conditions that restrict anything, in order; the first fault counts. -/
def compileAll (mapping : FieldMapping) : List Condition → Except Error (List Formula)
  | [] => .ok []
  | condition :: rest => do
    let part ← compile mapping condition
    let parts ← compileAll mapping rest
    return part.toList ++ parts

end

end Condition

namespace Formula

/-- The formula that all the conditions make up, if they restrict anything. -/
def ofConditions (mapping : FieldMapping) (conditions : List Condition) :
    Except Error (Option Formula) :=
  (Condition.compileAll mapping conditions).map conjunction

/-- The text of that formula. -/
def filterText (mapping : FieldMapping) (conditions : List Condition) :
    Except Error (Option String) :=
  (ofConditions mapping conditions).map (Option.map render)

end Formula

end TableQuery
