import TableQuery.Value.Basic

/-!
# Values and plain types

`ToValue` turns data of a plain type into a value, and `FromValue` reads a value back as one of five
target types. A value of the wrong kind gives a `TypeMismatch`, which names both kinds.
-/

namespace TableQuery

/-! ## Into values -/

/-- Types whose data are cell values. -/
class ToValue (α : Type) where
  toValue : α → Value

export ToValue (toValue)

instance : ToValue Value := ⟨id⟩
instance : ToValue Bool := ⟨.bool⟩
instance : ToValue Int64 := ⟨.int⟩
instance : ToValue Int32 := ⟨fun n => .int n.toInt64⟩
instance : ToValue UInt32 := ⟨fun n => .int (Int64.ofNat n.toNat)⟩
instance : ToValue Float := ⟨.float⟩
instance : ToValue String := ⟨.text⟩

instance {α : Type} [ToValue α] : ToValue (Option α) :=
  ⟨fun
    | some a => toValue a
    | none => .null⟩

instance {α : Type} [ToValue α] : ToValue (List α) := ⟨fun items => .list (items.map toValue)⟩

/-! ## From values -/

/-- The types that a value can be read as. -/
inductive Target where
  | bool
  | int
  | float
  | text
  | texts
  deriving DecidableEq, Repr

/-- A value of the wrong kind. -/
structure TypeMismatch where
  /-- The kind that was asked for. -/
  expected : String
  /-- The kind of the value. -/
  actual : String
  /-- The attribute that was read. -/
  field : Option String
  /-- The type that was asked for. -/
  target : Option Target
  deriving DecidableEq, Repr

namespace TypeMismatch

/-- The mismatch of a value with a target; no attribute is known yet. -/
def of (expected : String) (target : Target) (actual : Value) : TypeMismatch :=
  { expected, actual := actual.kindName, field := none, target := some target }

def message (mismatch : TypeMismatch) : String :=
  match mismatch.field with
  | some field =>
    "expected " ++ mismatch.expected ++ " for field '" ++ field ++ "', found " ++ mismatch.actual
  | none => "expected " ++ mismatch.expected ++ ", found " ++ mismatch.actual

end TypeMismatch

/-- Types that a value can be read as. -/
class FromValue (α : Type) where
  fromValue : Value → Except TypeMismatch α

export FromValue (fromValue)

/-- The result of a view, or a mismatch where it has none. -/
def Value.expect {α : Type} (view? : Value → Option α) (expected : String) (target : Target)
    (value : Value) : Except TypeMismatch α :=
  match view? value with
  | some a => .ok a
  | none => .error (.of expected target value)

/-- An empty cell reads as false, since a store leaves out a box that is not ticked. -/
instance : FromValue Bool :=
  ⟨fun
    | .null => .ok false
    | value => value.expect Value.asBool? "boolean" .bool⟩

instance : FromValue Int64 := ⟨Value.expect Value.asInt? "integer" .int⟩

instance : FromValue Float := ⟨Value.expect Value.asFloat? "float" .float⟩

instance : FromValue String := ⟨Value.expect Value.asText? "text" .text⟩

/-- An empty cell reads as the empty list; the first item that is no text is the mismatch. -/
instance : FromValue (List String) :=
  ⟨fun
    | .null => .ok []
    | .list items => items.mapM fromValue
    | value => .error (.of "list" .texts value)⟩

end TableQuery
