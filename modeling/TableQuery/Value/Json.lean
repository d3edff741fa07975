import TableQuery.Json.Printer
import TableQuery.Value.Basic

/-!
# Values in documents

A value becomes a document in which a double that is not finite is null. A document becomes a value
in one of two ways. `ofJson` takes every document: an integer beyond 64 signed bits becomes a
double, and an object, for which cells have no form, becomes its text. `ofPlainJson?` tries the
kinds of value in turn and takes the first that fits; no kind fits an object, so it refuses a
document that has one anywhere. `render` writes a value without building a document first.
-/

namespace TableQuery.Value

/-! ## Into documents -/

mutual

/-- The document of a value; a double that is not finite is null. -/
def toJson : Value → Json
  | .null => .null
  | .bool b => .bool b
  | .int n => .num (.ofInt64 n)
  | .float x =>
    match Json.Number.ofFloat? x with
    | some n => .num n
    | none => .null
  | .text s => .str s
  | .list items => .arr (itemsToJson items)

def itemsToJson : List Value → List Json
  | [] => []
  | item :: rest => toJson item :: itemsToJson rest

end

mutual

/-- The JSON text of a value. -/
def render : Value → String
  | .null => "null"
  | .bool b => if b then "true" else "false"
  | .int n => Decimal.writeInt n.toInt
  | .float x => if x.isFinite then Json.doubleLayout.write x else "null"
  | .text s => Json.quote s
  | .list items => Json.bracketed (renderItems items)

def renderItems : List Value → List String
  | [] => []
  | item :: rest => render item :: renderItems rest

end

/-! ## From documents -/

mutual

/-- The value of a document. An object becomes its text. -/
def ofJson : Json → Value
  | .null => .null
  | .bool b => .bool b
  | .num n =>
    match n.toInt64? with
    | some i => .int i
    | none => .float n.toFloat
  | .str s => .text s
  | .arr items => .list (ofItems items)
  | .obj members => .text (Json.obj members).render

def ofItems : List Json → List Value
  | [] => []
  | item :: rest => ofJson item :: ofItems rest

end

def ofJsonNull? : Json → Option Value
  | .null => some .null
  | _ => none

def ofJsonBool? : Json → Option Value
  | .bool b => some (.bool b)
  | _ => none

/-- An integer must fit 64 signed bits; a double is none, also when it is whole. -/
def ofJsonInt? : Json → Option Value
  | .num n => n.toInt64?.map .int
  | _ => none

/-- Any number is a double. -/
def ofJsonFloat? : Json → Option Value
  | .num n => some (.float n.toFloat)
  | _ => none

def ofJsonText? : Json → Option Value
  | .str s => some (.text s)
  | _ => none

mutual

/-- The value of a document as the first kind of value that fits. -/
def ofPlainJson? (document : Json) : Option Value :=
  ofJsonNull? document <|> ofJsonBool? document <|> ofJsonInt? document
    <|> ofJsonFloat? document <|> ofJsonText? document
    <|> match document with
      | .arr items => (ofPlainItems? items).map .list
      | _ => none

def ofPlainItems? : List Json → Option (List Value)
  | [] => some []
  | item :: rest => do
    let first ← ofPlainJson? item
    let others ← ofPlainItems? rest
    some (first :: others)

end

end TableQuery.Value
