import TableQuery.Text.Blank
import TableQuery.Value.Convert

/-!
# Conditions

A condition restricts the records of a query. It names attributes; columns are found only when the
query is compiled. A `Criterion` is what a single attribute has to meet: the shape of the value
given decides between an equality, a half-open range and a membership test. `Conditions` pairs
attributes with criteria, and a `Filter` is whatever a query can be restricted by.
-/

namespace TableQuery

/-- A restriction on records. -/
inductive Condition where
  | equals (field : String) (value : Value)
  /-- At least the lower value and below the upper one. -/
  | range (field : String) (lower upper : Value)
  /-- Equal to one of the values. -/
  | oneOf (field : String) (values : List Value)
  /-- A formula in the words of the store, used as it is. -/
  | raw (formula : String)
  /-- All of the conditions. -/
  | and (children : List Condition)

/-- What an attribute has to meet. -/
inductive Criterion where
  | value (value : Value)
  | range (lower upper : Value)
  | oneOf (values : List Value)
  deriving BEq

/-- A list is a membership test, any other value an equality. -/
def Criterion.ofValue : Value → Criterion
  | .list items => .oneOf items
  | v => .value v

/-- The criterion that plain data stand for. -/
def Criterion.of {α : Type} [ToValue α] (a : α) : Criterion := ofValue (toValue a)

namespace Condition

instance : Inhabited Condition := ⟨.and []⟩

/-- An attribute and what it has to meet. -/
def ofCriterion (field : String) : Criterion → Condition
  | .value value => .equals field value
  | .range lower upper => .range field lower upper
  | .oneOf values => .oneOf field values

mutual

/-- The condition holds of every record: a blank formula, or a conjunction of such conditions. -/
def isTrivial : Condition → Bool
  | .raw formula => Text.isBlank formula
  | .and children => allTrivial children
  | _ => false

def allTrivial : List Condition → Bool
  | [] => true
  | child :: rest => isTrivial child && allTrivial rest

end

mutual

/-- Conditions are equal part by part, values as values are. -/
def beq : Condition → Condition → Bool
  | .equals f v, .equals g w => f == g && v == w
  | .range f a b, .range g c d => f == g && a == c && b == d
  | .oneOf f vs, .oneOf g ws => f == g && vs == ws
  | .raw s, .raw t => s == t
  | .and cs, .and ds => beqChildren cs ds
  | _, _ => false

def beqChildren : List Condition → List Condition → Bool
  | [], [] => true
  | c :: cs, d :: ds => beq c d && beqChildren cs ds
  | _, _ => false

end

instance : BEq Condition := ⟨beq⟩

end Condition

/-! ## Attributes with criteria -/

/-- Attributes and what they have to meet, in the order given. -/
structure Conditions where
  entries : List (String × Criterion)
  deriving BEq

namespace Conditions

def empty : Conditions := ⟨[]⟩

/-- The mapping with one more entry at its end. -/
def add (conditions : Conditions) (field : String) (criterion : Criterion) : Conditions :=
  ⟨conditions.entries ++ [(field, criterion)]⟩

def ofList (entries : List (String × Criterion)) : Conditions := ⟨entries⟩

def size (conditions : Conditions) : Nat := conditions.entries.length

def isEmpty (conditions : Conditions) : Bool := conditions.entries.isEmpty

/-- A single entry stands alone, several are joined, and none give no condition. -/
def condition? (conditions : Conditions) : Option Condition :=
  match conditions.entries with
  | [] => none
  | [(field, criterion)] => some (.ofCriterion field criterion)
  | entries => some (.and (entries.map fun (field, criterion) => .ofCriterion field criterion))

end Conditions

/-! ## Filters -/

/-- What a query is restricted by: at most one condition. -/
structure Filter where
  given : Option Condition

namespace Filter

/-- A formula in the words of the store. -/
def raw (formula : String) : Filter := ⟨some (.raw formula)⟩

def ofCondition (condition : Condition) : Filter := ⟨some condition⟩

def ofConditions (conditions : Conditions) : Filter := ⟨conditions.condition?⟩

/-- The condition that the filter contributes; one that holds of every record is left out. -/
def condition? (filter : Filter) : Option Condition :=
  filter.given.filter fun condition => !condition.isTrivial

end Filter

end TableQuery
