import TableQuery.Relation.Basic
import TableQuery.Text.Blank
import TableQuery.Text.Numeric

/-!
# Scopes

A scope is a named refinement of queries that belongs to one model. Its body is a formula or a list
of steps, which may use other scopes of the same model and the arguments of the call. A registry
holds the scopes of a model; names are looked up when a scope is applied and not when it is defined.

While the body of a scope runs, the scope itself is out of reach: a body that leads back to its own
scope fails as if the scope were not defined. So every application comes to an end.
-/

namespace TableQuery

/-- A step of a chain of refinements. -/
inductive QueryStep where
  | filter (given : Filter)
  | order (key : OrderBy)
  | orderBy (keys : List OrderBy)
  | limit (n : UInt64)
  | offset (n : UInt64)
  /-- No change. -/
  | copy
  /-- Another scope, without arguments. -/
  | scope (name : String)
  /-- Another scope with the given arguments. -/
  | scopeWith (name : String) (args : List Value)
  /-- An attribute has to meet the argument at a position, if there is one. -/
  | filterByArg (field : String) (position : Nat)
  /-- The first argument as a limit, if it is an integer that is not negative. -/
  | limitByArg
  /-- Another scope with the arguments of this one. -/
  | passArgs (name : String)
  /-- Gives up. -/
  | fail (message : String)

/-- What a scope does. -/
inductive ScopeBody where
  /-- Adds a formula in the store's words. -/
  | formula (text : String)
  /-- Takes the steps without any arguments. -/
  | steps (body : List QueryStep)
  /-- Takes the steps with the arguments of the call. -/
  | withArgs (body : List QueryStep)

namespace QueryStep

/-- The limit that the arguments ask for. -/
def argLimit? (args : List Value) : Option UInt64 :=
  match args.head?.bind Value.asInt? with
  | some n => if 0 ≤ n then some n.toUInt64 else none
  | none => none

/-- Takes one step; `scope` applies another scope. -/
def perform (scope : String → List Value → Query → Except Error Query) (args : List Value) :
    QueryStep → Query → Except Error Query
  | .filter given, query => .ok (query.addFilter given)
  | .order key, query => .ok (query.addOrder [key])
  | .orderBy keys, query => .ok (query.addOrder keys)
  | .limit n, query => .ok (query.setLimit n)
  | .offset n, query => .ok (query.setOffset n)
  | .copy, query => .ok query
  | .scope name, query => scope name [] query
  | .scopeWith name args, query => scope name args query
  | .filterByArg field position, query =>
    match args[position]? with
    | some value =>
      .ok (query.addFilter (.ofConditions (.ofList [(field, .ofValue value)])))
    | none => .ok query
  | .limitByArg, query =>
    match argLimit? args with
    | some n => .ok (query.setLimit n)
    | none => .ok query
  | .passArgs name, query => scope name args query
  | .fail message, _ => .error (.custom message)

/-- Takes steps one after the other, up to the first that fails. -/
def performAll (scope : String → List Value → Query → Except Error Query) (args : List Value)
    (steps : List QueryStep) (query : Query) : Except Error Query :=
  steps.foldlM (fun query step => step.perform scope args query) query

end QueryStep

namespace ScopeBody

/-- The steps of a body. -/
def toSteps : ScopeBody → List QueryStep
  | .formula text => [.filter (.raw text)]
  | .steps body => body
  | .withArgs body => body

/-- The arguments that reach the steps of a body. -/
def passed (args : List Value) : ScopeBody → List Value
  | .withArgs _ => args
  | _ => []

end ScopeBody

/-- The scopes of the model of a table. -/
structure ScopeRegistry where
  table : String
  bodies : Std.TreeMap String ScopeBody

namespace ScopeRegistry

/-- No scopes yet. -/
def empty (table : String) : ScopeRegistry := ⟨table, ∅⟩

/-! ## Definition -/

/-- The names of operations on models and queries, which scopes may not take. -/
def reservedNames : List String := [
  "all", "compile", "count", "each", "filter", "find_by", "find_by_or_fail", "first", "first_n",
  "last", "last_n", "limit", "load", "new", "offset", "order", "order_by", "scope", "scope_with",
  "spawn", "to_json", "where"]

/-- What is wrong with a scope's name, if anything is. -/
def nameFault? (name : String) : Option ScopeFault :=
  match name.toList with
  | [] => some .emptyName
  | first :: rest =>
    if (Text.isAlphabetic first || first = '_')
        && rest.all fun c => Text.isAlphanumeric c || c = '_' then
      if reservedNames.contains name then some .reservedName else none
    else some .notIdentifier

/-- What is wrong with a definition, if anything is; a blank formula is found before a bad name. -/
def fault? (name : String) : ScopeBody → Option ScopeFault
  | .formula text => if Text.isBlank text then some .blankFormula else nameFault? name
  | _ => nameFault? name

/-- Defines a scope, in the place of an earlier one of the same name. -/
def define (registry : ScopeRegistry) (name : String) (body : ScopeBody) :
    Except Error ScopeRegistry :=
  match fault? name body with
  | some fault => .error (.invalidScope registry.table name fault)
  | none => .ok { registry with bodies := registry.bodies.insert name body }

theorem define_of_fault {registry : ScopeRegistry} {name : String} {body : ScopeBody}
    {fault : ScopeFault} (faulty : fault? name body = some fault) :
    registry.define name body = .error (.invalidScope registry.table name fault) := by
  rw [define, faulty]

theorem define_of_sound {registry : ScopeRegistry} {name : String} {body : ScopeBody}
    (sound : fault? name body = none) :
    registry.define name body =
      .ok { registry with bodies := registry.bodies.insert name body } := by
  rw [define, sound]

/-! ## Look-up -/

def contains (registry : ScopeRegistry) (name : String) : Bool := registry.bodies.contains name

/-- The names of the scopes, in ascending order. -/
def names (registry : ScopeRegistry) : List String := registry.bodies.keys

def size (registry : ScopeRegistry) : Nat := registry.bodies.size

def isEmpty (registry : ScopeRegistry) : Bool := registry.bodies.isEmpty

/-- The registry without one scope. -/
def without (registry : ScopeRegistry) (name : String) : ScopeRegistry :=
  { registry with bodies := registry.bodies.erase name }

theorem size_without {registry : ScopeRegistry} {name : String} {body : ScopeBody}
    (found : registry.bodies[name]? = some body) :
    (registry.without name).size = registry.size - 1 := by
  have member : registry.bodies.contains name = true := by
    rw [Std.TreeMap.contains_eq_isSome_getElem?, found]
    rfl
  rw [size, size, without, Std.TreeMap.size_erase, if_pos member]

theorem getElem?_of_size_eq_zero {registry : ScopeRegistry} (empty : registry.size = 0)
    (name : String) : registry.bodies[name]? = none := by
  refine Std.TreeMap.getElem?_of_isEmpty ?_
  rw [Std.TreeMap.isEmpty_eq_size_eq_zero]
  exact beq_iff_eq.2 empty

/-! ## Application -/

/-- Applies a scope with other scopes inside it to a given depth. -/
def applyWithin : Nat → ScopeRegistry → String → List Value → Query → Except Error Query
  | 0, registry, name, _, _ => .error (.unknownScope registry.table name)
  | depth + 1, registry, name, args, query =>
    match registry.bodies[name]? with
    | none => .error (.unknownScope registry.table name)
    | some body =>
      QueryStep.performAll (applyWithin depth (registry.without name)) (body.passed args)
        body.toSteps query

theorem applyWithin_of_unknown {registry : ScopeRegistry} {name : String}
    (unknown : registry.bodies[name]? = none) (depth : Nat) (args : List Value) (query : Query) :
    applyWithin depth registry name args query = .error (.unknownScope registry.table name) := by
  cases depth with
  | zero => rfl
  | succ depth => simp only [applyWithin, unknown]

/-- Greater depths than the number of scopes make no difference: at each depth one scope fewer is in
reach. -/
theorem applyWithin_succ_of_size_le {depth : Nat} {registry : ScopeRegistry}
    (enough : registry.size ≤ depth) :
    applyWithin (depth + 1) registry = applyWithin depth registry := by
  induction depth generalizing registry with
  | zero =>
    funext name args query
    have unknown := getElem?_of_size_eq_zero (Nat.le_zero.1 enough) name
    rw [applyWithin_of_unknown unknown, applyWithin_of_unknown unknown]
  | succ depth ih =>
    funext name args query
    rw [applyWithin, applyWithin]
    cases found : registry.bodies[name]? with
    | none => rfl
    | some body =>
      have smaller : (registry.without name).size ≤ depth := by
        rw [size_without found]
        omega
      rw [ih smaller]

/-- Applies a scope with arguments. Every scope inside another leaves one fewer in reach, so scopes
cannot be deeper inside one another than there are. -/
def apply (registry : ScopeRegistry) (name : String) (args : List Value) (query : Query) :
    Except Error Query :=
  applyWithin registry.size registry name args query

end ScopeRegistry

/-- Takes steps on a relation with the scopes of its model; the result has loaded nothing. -/
def Relation.chain {α : Type} {model : Model α} (relation : Relation model)
    (registry : ScopeRegistry) (steps : List QueryStep) : Except Error (Relation model) :=
  (QueryStep.performAll registry.apply [] steps relation.query).map Relation.ofQuery

end TableQuery
