import TableQuery.Json.Reader

/-!
# Looking at a document one layer at a time

Typed data is read from a document by looking at its outermost layer, then at the layers of those
parts that the type calls for. The source may be a document or a raw document inside a text; a part
of a raw document that is never looked at need not make a document. An object without repeated keys
gives the members of a structure by name, an array gives them by position.
-/

namespace TableQuery.Json

/-- The outermost layer of a document whose parts are of type `σ`. -/
inductive Layer (σ : Type) where
  | null
  | bool (b : Bool)
  | num (n : Number)
  | str (s : String)
  | arr (items : List σ)
  | obj (members : List (String × σ))

/-- Something that can be looked at as a document. -/
class Layered (σ : Type) where
  /-- The outermost layer, if it is in order. -/
  layer? : σ → Option (Layer σ)
  /-- The whole document, if all of it is in order. -/
  toJson? : σ → Option Json

export Layered (layer?)

/-- The outermost layer of a document. -/
def layer : Json → Layer Json
  | .null => .null
  | .bool b => .bool b
  | .num n => .num n
  | .str s => .str s
  | .arr items => .arr items
  | .obj members => .obj members

instance : Layered Json where
  layer? document := some document.layer
  toJson? document := some document

/-- A raw document with the depth that is left for it. -/
structure Raw.Within where
  raw : Raw
  depth : Nat

/-- The names of an object's members, each with its value. -/
def Raw.namedMembers? (depth : Nat) :
    List (List Piece × Raw) → Option (List (String × Raw.Within))
  | [] => some []
  | (key, value) :: rest => do
    let name ← text? key
    let others ← namedMembers? depth rest
    some ((name, ⟨value, depth⟩) :: others)

/-- The outermost layer of a raw document: its own number or string, its own depth and its own keys
are in order. -/
def Raw.Within.layer? : Raw.Within → Option (Layer Raw.Within)
  | ⟨.null, _⟩ => some .null
  | ⟨.bool b, _⟩ => some (.bool b)
  | ⟨.num n, _⟩ => n.number?.map .num
  | ⟨.str s, _⟩ => (text? s).map .str
  | ⟨.arr _, 0⟩ => none
  | ⟨.arr items, depth + 1⟩ => some (.arr (items.map (⟨·, depth⟩)))
  | ⟨.obj _, 0⟩ => none
  | ⟨.obj members, depth + 1⟩ => (Raw.namedMembers? depth members).map .obj

instance : Layered Raw.Within where
  layer? := Raw.Within.layer?
  toJson? source := source.raw.toJson? source.depth

/-- A text as a source of typed data. -/
def source? (text : String) : Option Raw.Within := (Raw.read? text).map (⟨·, maxDepth⟩)

/-! ## Reading plain data -/

section Plain

variable {σ : Type} [Layered σ]

def null? (source : σ) : Option Unit :=
  match layer? source with
  | some .null => some ()
  | _ => none

def string? (source : σ) : Option String :=
  match layer? source with
  | some (.str s) => some s
  | _ => none

def uint64? (source : σ) : Option UInt64 :=
  match layer? source with
  | some (.num n) => n.toUInt64?
  | _ => none

/-- Null is nothing, anything else is read by `read?`. -/
def nullable? {α : Type} (read? : σ → Option α) (source : σ) : Option (Option α) :=
  match layer? source with
  | some .null => some none
  | _ => (read? source).map some

/-- A member that may be missing or null. -/
def optional? {α : Type} (read? : σ → Option α) : Option σ → Option (Option α)
  | some source => nullable? read? source
  | none => some none

def list? {α : Type} (read? : σ → Option α) (source : σ) : Option (List α) :=
  match layer? source with
  | some (.arr items) => items.mapM read?
  | _ => none

end Plain

/-! ## Structures -/

/-- The members of a structure with the given names, in their order, if `source` is an object, or
its items in their order, if it is an array; a missing member is none. A name that occurs twice is
refused, and so is an array with fewer than `least` items or with more items than there are names;
members with other names are passed over. -/
def structure? {σ : Type} [Layered σ] (names : List String) (least : Nat) (source : σ) :
    Option (List (Option σ)) :=
  match layer? source with
  | some (.obj members) => names.mapM fun name =>
    match members.filter (·.1 == name) with
    | [] => some none
    | [member] => some (some member.2)
    | _ => none
  | some (.arr items) =>
    if least ≤ items.length ∧ items.length ≤ names.length then
      some (items.map some ++ List.replicate (names.length - items.length) none)
    else none
  | _ => none

end TableQuery.Json
