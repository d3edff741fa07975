import TableQuery.Value.Convert

/-!
# Errors

An error is the cause of a failure; `Error.message` is its wording. A cause that the library itself
finds has a constructor of its own, and `other` takes the words of a caller.
-/

namespace TableQuery

/-- What is wrong with a field of a condition or a sort key. -/
inductive FieldFault where
  /-- A condition names no attribute. -/
  | emptyName
  /-- The attribute of a condition belongs to a column without a name. -/
  | emptyColumn
  /-- A membership test has no values. -/
  | noValues
  /-- A list stands where a single value is compared. -/
  | listCompared
  /-- The number compared is not finite. -/
  | notFinite (name : String)
  /-- A sort key names no attribute. -/
  | emptySortName
  /-- The attribute of a sort key belongs to a column without a name. -/
  | emptySortColumn
  | other (text : String)
  deriving DecidableEq, Repr

def FieldFault.message : FieldFault → String
  | .emptyName => "condition has an empty field key"
  | .emptyColumn => "field maps to an empty backend name"
  | .noValues => "set-membership condition needs at least one value"
  | .listCompared => "a list cannot be used as a single comparison value"
  | .notFinite name => "non-finite number " ++ name ++ " has no formula literal"
  | .emptySortName => "sort key has an empty field name"
  | .emptySortColumn => "sort field maps to an empty backend name"
  | .other text => text

/-- Why a scope cannot be defined. -/
inductive ScopeFault where
  | emptyName
  /-- The name is not made of letters, digits and underscores, or begins with a digit. -/
  | notIdentifier
  /-- The name is that of an operation on queries. -/
  | reservedName
  | blankFormula
  | other (text : String)
  deriving DecidableEq, Repr

def ScopeFault.message : ScopeFault → String
  | .emptyName => "scope name is empty"
  | .notIdentifier => "scope name must be an identifier"
  | .reservedName => "scope name shadows a built-in query operation"
  | .blankFormula => "formula body is empty"
  | .other text => text

/-- The kinds of failure that a store reports. -/
inductive StoreFault where
  /-- The store could not be reached. -/
  | connection
  /-- The credentials were rejected. -/
  | authentication
  /-- The base or the table does not exist. -/
  | notFound
  /-- The store rejected the parameters. -/
  | invalidRequest
  /-- Too many requests were made. -/
  | rateLimited
  /-- Any other failure of the store. -/
  | remote
  deriving DecidableEq, Repr

/-- The causes of failure. -/
inductive Error where
  /-- A field, with the attribute's name as it was given, if there is one. -/
  | invalidField (field : Option String) (fault : FieldFault)
  | invalidScope (table scope : String) (fault : ScopeFault)
  /-- The scope is not defined for the model of the table. -/
  | unknownScope (table scope : String)
  /-- A record that had to exist does not; the filter is the one that matched nothing. -/
  | recordNotFound (table : String) (filter : Option String)
  /-- A failure of the store, with the text of its own cause, if it has one. -/
  | store (fault : StoreFault) (text : String) (source : Option String)
  | typeMismatch (mismatch : TypeMismatch)
  | serialization (text : String)
  | custom (text : String)
  deriving DecidableEq, Repr

namespace Error

def message : Error → String
  | .invalidField (some field) fault => "Invalid field: '" ++ field ++ "': " ++ fault.message
  | .invalidField none fault => "Invalid field: " ++ fault.message
  | .invalidScope table scope fault =>
    "Invalid scope: scope '" ++ scope ++ "' on model '" ++ table ++ "': " ++ fault.message
  | .unknownScope table scope => "Unknown scope '" ++ scope ++ "' for model '" ++ table ++ "'"
  | .recordNotFound table (some filter) =>
    "Record not found in '" ++ table ++ "' for " ++ filter
  | .recordNotFound table none => "Record not found in '" ++ table ++ "'"
  | .store _ text _ => "Store error: " ++ text
  | .typeMismatch mismatch => "Type error: " ++ mismatch.message
  | .serialization text => "Serialization error: " ++ text
  | .custom text => text

/-- The error says that no record matched. -/
def isNotFound : Error → Bool
  | .recordNotFound _ _ => true
  | _ => false

/-- The error was raised by the store and not by the making of a query. -/
def isStoreError : Error → Bool
  | .store _ _ _ => true
  | _ => false

/-- The text of the cause behind the error; only the store has one. -/
def source? : Error → Option String
  | .store _ _ source => source
  | _ => none

end Error

end TableQuery
