import TableQuery.Proofs.Outcome
import TableQuery.Proofs.Record.Writing

/-!
# Attributes as target types

The value of an attribute and the target type decide what a reading gives. `Target.Accepts` lists
the values that can be read, `Target.Reads` tells what they are read as, and `Target.Offends` finds
what is to blame for the failure of any other value: the value itself, or the first item of a list
that is no text where texts are read. `Record.readings_by_target` says that readings come to nothing
else, and that the reading of an attribute that may be missing differs from the plain one on null
alone.
-/

namespace TableQuery

namespace Target

/-! ## What values are read as -/

/-- The data of a target type. -/
abbrev Data : Target → Type
  | .bool => Bool
  | .int => Int64
  | .float => Float
  | .text => String
  | .texts => List String

instance (target : Target) : FromValue target.Data :=
  match target with
  | .bool => inferInstanceAs (FromValue Bool)
  | .int => inferInstanceAs (FromValue Int64)
  | .float => inferInstanceAs (FromValue Float)
  | .text => inferInstanceAs (FromValue String)
  | .texts => inferInstanceAs (FromValue (List String))

/-- The kind of value that is expected for the target. -/
def kindName : Target → String
  | .bool => "boolean"
  | .int => "integer"
  | .float => "float"
  | .text => "text"
  | .texts => "list"

/-- The datum that a value is read as. -/
inductive Reads : (target : Target) → Value → target.Data → Prop
  | unticked : Reads .bool .null false
  | bool (b : Bool) : Reads .bool (.bool b) b
  | nonzero (n : Int64) : Reads .bool (.int n) (n != 0)
  | int (n : Int64) : Reads .int (.int n) n
  | zero : Reads .int (.bool false) (0 : Int64)
  | one : Reads .int (.bool true) (1 : Int64)
  | float (x : Float) : Reads .float (.float x) x
  | nearest (n : Int64) : Reads .float (.int n) (doubleOfInt n.toInt)
  | text (s : String) : Reads .text (.text s) s
  | noTexts : Reads .texts .null []
  | texts (texts : List String) : Reads .texts (.list (texts.map .text)) texts

variable {target asked : Target} {value bad : Value} {items : List Value} {mismatch : TypeMismatch}

/-! ## Texts -/

end Target

namespace Record

variable {record : Record} {mapping : FieldMapping} {name : String} {target : Target}

/-! ## Attributes -/

section Optional

variable {α : Type} [FromValue α]

end Optional

end Record

end TableQuery
