import TableQuery.Double

/-!
# Cell values

A cell of a table is empty or holds a truth value, a 64-bit integer, a double, a text or a list of
values. The type is dynamic: what a cell holds is known only once it is read.
-/

namespace TableQuery

/-- What a cell holds. -/
inductive Value where
  | null
  | bool (b : Bool)
  | int (n : Int64)
  | float (x : Float)
  | text (s : String)
  | list (items : List Value)

namespace Value

instance : Inhabited Value := ⟨.null⟩

/-- The name of the kind of value, as messages use it. -/
def kindName : Value → String
  | .null => "null"
  | .bool _ => "boolean"
  | .int _ => "integer"
  | .float _ => "float"
  | .text _ => "text"
  | .list _ => "list"

def isNull : Value → Bool
  | .null => true
  | _ => false

/-- Something is there: not the empty cell, the empty text or the empty list. -/
def isPresent : Value → Bool
  | .null => false
  | .text s => !s.isEmpty
  | .list items => !items.isEmpty
  | _ => true

/-! ## Views -/

/-- A truth value; an integer counts as its difference from zero. -/
def asBool? : Value → Option Bool
  | .bool b => some b
  | .int n => some (n != 0)
  | _ => none

/-- An integer; a truth value counts as one or zero. -/
def asInt? : Value → Option Int64
  | .int n => some n
  | .bool b => some (if b then 1 else 0)
  | _ => none

/-- A double; an integer counts as the double nearest to it. -/
def asFloat? : Value → Option Float
  | .float x => some x
  | .int n => some (doubleOfInt n.toInt)
  | _ => none

def asText? : Value → Option String
  | .text s => some s
  | _ => none

def asList? : Value → Option (List Value)
  | .list items => some items
  | _ => none

/-! ## Comparison -/

mutual

/-- Values of one kind are compared as their contents are: `0.0` equals `-0.0`, and the double that
is not a number differs from itself. Values of two kinds are never equal. -/
def beq : Value → Value → Bool
  | .null, .null => true
  | .bool a, .bool b => a == b
  | .int m, .int n => m == n
  | .float x, .float y => x == y
  | .text s, .text t => s == t
  | .list xs, .list ys => beqItems xs ys
  | _, _ => false

def beqItems : List Value → List Value → Bool
  | [], [] => true
  | x :: xs, y :: ys => beq x y && beqItems xs ys
  | _, _ => false

end

instance : BEq Value := ⟨beq⟩

end Value

end TableQuery
