import Std.Data.TreeMap

/-!
# Attributes and columns

A model names its attributes as it likes, and the table names its columns. A field mapping holds the
definitions of a model's attributes in the order in which they were first declared, with two indexes
into them: by attribute and by column. An attribute that is not defined stands for the column of the
same name.

Several attributes may share a column. The column index then points at the one defined last; when
that one moves to another column, the column passes to the last of the definitions that still use
it.
-/

namespace TableQuery

/-- How an attribute reads its cell. -/
inductive FieldKind where
  /-- A tick box: an empty cell reads as false. -/
  | boolean
  /-- Any other cell, read as it is. -/
  | other
  deriving DecidableEq, Repr

/-- The definition of an attribute. -/
structure FieldDef where
  /-- The attribute. -/
  name : String
  /-- Its column in the table. -/
  column : String
  /-- The table computes the column and takes no values for it. -/
  readonly : Bool := false
  kind : FieldKind := .other
  deriving DecidableEq, Repr

/-- The attributes of a model and their columns. -/
structure FieldMapping where
  /-- The definitions, in the order of first declaration. -/
  defs : List FieldDef
  /-- The position of an attribute's definition. -/
  byName : Std.TreeMap String Nat
  /-- The position of the definition that answers for a column. -/
  byColumn : Std.TreeMap String Nat

namespace FieldMapping

/-- The mapping without definitions. -/
def empty : FieldMapping := ⟨[], ∅, ∅⟩

instance : Inhabited FieldMapping := ⟨empty⟩
instance : EmptyCollection FieldMapping := ⟨empty⟩

/-! ## Look-ups -/

/-- The definition of an attribute. -/
def get? (mapping : FieldMapping) (name : String) : Option FieldDef :=
  mapping.byName[name]?.bind (mapping.defs[·]?)

/-- The column of an attribute: that of its definition, or the one of the same name. -/
def resolve (mapping : FieldMapping) (name : String) : String :=
  match mapping.get? name with
  | some d => d.column
  | none => name

theorem resolve_of_defined {mapping : FieldMapping} {name : String} {d : FieldDef}
    (defined : mapping.get? name = some d) : mapping.resolve name = d.column := by
  rw [resolve, defined]

theorem resolve_of_undefined {mapping : FieldMapping} {name : String}
    (undefined : mapping.get? name = none) : mapping.resolve name = name := by
  rw [resolve, undefined]

/-- The definition that answers for a column. -/
def owner? (mapping : FieldMapping) (column : String) : Option FieldDef :=
  mapping.byColumn[column]?.bind (mapping.defs[·]?)

/-- The attribute that answers for a column. -/
def nameFor? (mapping : FieldMapping) (column : String) : Option String :=
  (mapping.owner? column).map (·.name)

/-- The attribute that answers for the column is read-only. -/
def isReadonly (mapping : FieldMapping) (column : String) : Bool :=
  (mapping.owner? column).any (·.readonly)

/-- The number of attributes defined. -/
def size (mapping : FieldMapping) : Nat := mapping.defs.length

def isEmpty (mapping : FieldMapping) : Bool := mapping.defs.isEmpty

/-- The attributes, in the order of first declaration. -/
def names (mapping : FieldMapping) : List String := mapping.defs.map (·.name)

/-! ## Definitions -/

/-- The position of the last definition that uses a column. -/
def lastOn? (defs : List FieldDef) (column : String) : Option Nat :=
  ((defs.zipIdx.filter fun entry => entry.1.column == column).getLast?).map (·.2)

/-- The column index once the definition at `position` has left `column`: if it answered for the
column, the last of the definitions on it takes over. -/
def release (byColumn : Std.TreeMap String Nat) (defs : List FieldDef) (position : Nat)
    (column : String) : Std.TreeMap String Nat :=
  if byColumn[column]? = some position then
    match lastOn? defs column with
    | some heir => byColumn.insert column heir
    | none => byColumn.erase column
  else byColumn

/-- Defines an attribute, or defines it anew in its place. -/
def define (mapping : FieldMapping) (d : FieldDef) : FieldMapping :=
  match mapping.byName[d.name]? with
  | some position =>
    let defs := mapping.defs.set position d
    let released := match mapping.defs[position]? with
      | some old => release mapping.byColumn defs position old.column
      | none => mapping.byColumn
    { mapping with defs, byColumn := released.insert d.column position }
  | none =>
    let position := mapping.defs.length
    { defs := mapping.defs ++ [d]
      byName := mapping.byName.insert d.name position
      byColumn := mapping.byColumn.insert d.column position }

/-- Defines a plain attribute. -/
def assign (mapping : FieldMapping) (name column : String) : FieldMapping :=
  mapping.define { name, column }

/-- The mapping of a sequence of definitions. -/
def ofList (defs : List FieldDef) : FieldMapping := defs.foldl define empty

end FieldMapping

end TableQuery
