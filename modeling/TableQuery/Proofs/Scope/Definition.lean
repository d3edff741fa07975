import TableQuery.Scope

/-!
# Definitions of scopes

`Acceptable` says which definitions a registry accepts; all others leave it as it was. After a list
of definitions a name stands for the last one of them that was accepted for it, or else for what it
stood for before: `getElem?_foldl_defining`.
-/

namespace TableQuery

namespace ScopeRegistry

/-! ## Acceptable definitions -/

/-- A letter or an underscore, and after it only letters, digits and underscores. -/
def IsIdentifier (name : String) : Prop :=
  ∃ first rest, name.toList = first :: rest ∧
    (Text.isAlphabetic first = true ∨ first = '_') ∧
    ∀ c ∈ rest, Text.isAlphanumeric c = true ∨ c = '_'

/-- The name may be given to a scope, and the body is not a blank formula. -/
structure Acceptable (name : String) (body : ScopeBody) : Prop where
  identifier : IsIdentifier name
  unreserved : name ∉ reservedNames
  nonblank : ∀ text, body = .formula text → Text.isBlank text = false

variable {name : String} {body : ScopeBody}

theorem isIdentifier_iff {first : Char} {rest : List Char} (spelt : name.toList = first :: rest) :
    IsIdentifier name ↔ ((Text.isAlphabetic first || first = '_') &&
      rest.all fun c => Text.isAlphanumeric c || c = '_') = true := by
  simp only [Bool.and_eq_true, Bool.or_eq_true, decide_eq_true_eq, List.all_eq_true]
  constructor
  · rintro ⟨head, tail, same, shape⟩
    cases spelt.symm.trans same
    exact shape
  · exact fun shape => ⟨first, rest, spelt, shape⟩

theorem nameFault?_eq_none_iff :
    nameFault? name = none ↔ IsIdentifier name ∧ name ∉ reservedNames := by
  unfold nameFault?
  split
  case h_1 empty => simp [IsIdentifier, empty]
  case h_2 first rest spelt =>
    rw [isIdentifier_iff spelt]
    split
    case isTrue shape => simp [shape]
    case isFalse shape => exact ⟨nofun, fun ⟨other, _⟩ => absurd other shape⟩

theorem fault?_eq_none_iff : fault? name body = none ↔ Acceptable name body := by
  have named : Acceptable name body ↔ nameFault? name = none ∧
      ∀ text, body = .formula text → Text.isBlank text = false := by
    rw [nameFault?_eq_none_iff]
    exact ⟨fun ⟨identifier, unreserved, nonblank⟩ => ⟨⟨identifier, unreserved⟩, nonblank⟩,
      fun ⟨⟨identifier, unreserved⟩, nonblank⟩ => ⟨identifier, unreserved, nonblank⟩⟩
  rw [named]
  cases body with
  | formula text => cases blank : Text.isBlank text <;> simp [fault?, blank]
  | steps steps => simp [fault?]
  | withArgs steps => simp [fault?]

instance (name : String) (body : ScopeBody) : Decidable (Acceptable name body) :=
  decidable_of_iff (fault? name body = none) fault?_eq_none_iff

/-! ## One definition -/

/-- The registry after a definition, or as it was if the definition is rejected. -/
def defining (registry : ScopeRegistry) (definition : String × ScopeBody) : ScopeRegistry :=
  match registry.define definition.1 definition.2 with
  | .ok next => next
  | .error _ => registry

theorem defining_cases (registry : ScopeRegistry) (definition : String × ScopeBody) :
    (fault? definition.1 definition.2 ≠ none ∧ registry.defining definition = registry) ∨
      (fault? definition.1 definition.2 = none ∧ registry.defining definition =
        { registry with bodies := registry.bodies.insert definition.1 definition.2 }) := by
  cases sound : fault? definition.1 definition.2 with
  | some fault => exact .inl ⟨nofun, by rw [defining, define_of_fault sound]⟩
  | none => exact .inr ⟨rfl, by rw [defining, define_of_sound sound]⟩

theorem define_of_acceptable (acceptable : Acceptable name body) (registry : ScopeRegistry) :
    registry.define name body =
      .ok { registry with bodies := registry.bodies.insert name body } :=
  define_of_sound (fault?_eq_none_iff.2 acceptable)

theorem exists_fault_of_not_acceptable (rejected : ¬Acceptable name body)
    (registry : ScopeRegistry) : ∃ fault,
      registry.define name body = .error (.invalidScope registry.table name fault) := by
  obtain ⟨fault, faulty⟩ := Option.ne_none_iff_exists'.1 (mt fault?_eq_none_iff.1 rejected)
  exact ⟨fault, define_of_fault faulty⟩

/-- What a definition has the name stand for, if it is accepted and for that name. -/
def accepted? (name : String) (definition : String × ScopeBody) : Option ScopeBody :=
  if definition.1 = name ∧ Acceptable definition.1 definition.2 then some definition.2 else none

theorem getElem?_defining (registry : ScopeRegistry) (definition : String × ScopeBody)
    (name : String) : (registry.defining definition).bodies[name]? =
      (accepted? name definition).or registry.bodies[name]? := by
  rcases registry.defining_cases definition with ⟨rejected, same⟩ | ⟨sound, same⟩
  · have refused : accepted? name definition = none :=
      if_neg fun acceptable => rejected (fault?_eq_none_iff.2 acceptable.2)
    rw [same, refused, Option.none_or]
  · rw [same, accepted?]
    refine Std.TreeMap.getElem?_insert.trans ?_
    simp only [Std.compare_eq_iff_eq, fault?_eq_none_iff.1 sound, and_true]
    split <;> rfl

/-! ## Many definitions -/

theorem table_foldl_defining (registry : ScopeRegistry) (definitions : List (String × ScopeBody)) :
    (definitions.foldl defining registry).table = registry.table := by
  induction definitions generalizing registry with
  | nil => rfl
  | cons definition rest ih =>
    rw [List.foldl_cons, ih]
    rcases registry.defining_cases definition with ⟨_, same⟩ | ⟨_, same⟩ <;> rw [same]

/-- What the name stands for by the last definition of it that is accepted. -/
def latest? (definitions : List (String × ScopeBody)) (name : String) : Option ScopeBody :=
  (definitions.filterMap (accepted? name)).getLast?

theorem latest?_cons (definition : String × ScopeBody) (rest : List (String × ScopeBody))
    (name : String) :
    latest? (definition :: rest) name = (latest? rest name).or (accepted? name definition) := by
  rw [latest?, latest?, List.filterMap_cons]
  cases accepted? name definition <;> simp [List.getLast?_cons]

theorem getElem?_foldl_defining (registry : ScopeRegistry)
    (definitions : List (String × ScopeBody)) (name : String) :
    (definitions.foldl defining registry).bodies[name]? =
      (latest? definitions name).or registry.bodies[name]? := by
  induction definitions generalizing registry with
  | nil => rfl
  | cons definition rest ih =>
    rw [List.foldl_cons, ih, getElem?_defining, ← Option.or_assoc, latest?_cons]

theorem latest?_eq_none_iff {definitions : List (String × ScopeBody)} :
    latest? definitions name = none ↔
      ∀ body, (name, body) ∈ definitions → ¬Acceptable name body := by
  simp only [latest?, List.getLast?_eq_none_iff, List.filterMap_eq_nil_iff, accepted?,
    ite_eq_right_iff, reduceCtorEq, imp_false, Prod.forall, not_and]
  exact ⟨fun none body member => none name body member rfl,
    fun none other body member same => by subst same; exact none body member⟩

theorem acceptable_of_latest? {definitions : List (String × ScopeBody)}
    (latest : latest? definitions name = some body) :
    (name, body) ∈ definitions ∧ Acceptable name body := by
  obtain ⟨⟨other, given⟩, member, accepted⟩ :=
    List.mem_filterMap.1 (List.mem_of_getLast? latest)
  obtain ⟨⟨rfl, acceptable⟩, same⟩ := Option.ite_none_right_eq_some.1 accepted
  cases same
  exact ⟨member, acceptable⟩

theorem exists_latest?_iff {definitions : List (String × ScopeBody)} :
    (∃ body, latest? definitions name = some body) ↔
      ∃ body, (name, body) ∈ definitions ∧ Acceptable name body := by
  rw [← Option.ne_none_iff_exists', ne_eq, latest?_eq_none_iff]
  simp

/-- A name stays unknown if every definition of it is rejected. -/
theorem unknown_foldl_defining {registry : ScopeRegistry} {name : String}
    (unknown : registry.bodies[name]? = none) {definitions : List (String × ScopeBody)}
    (rejected : ∀ body, (name, body) ∈ definitions → fault? name body ≠ none) :
    (definitions.foldl defining registry).bodies[name]? = none := by
  have refused : latest? definitions name = none :=
    latest?_eq_none_iff.2 fun body member => mt fault?_eq_none_iff.2 (rejected body member)
  rw [getElem?_foldl_defining, refused, unknown, Option.none_or]

/-! ## Names -/

theorem contains_iff {registry : ScopeRegistry} :
    registry.contains name = true ↔ ∃ body, registry.bodies[name]? = some body := by
  rw [contains, Std.TreeMap.contains_eq_isSome_getElem?, Option.isSome_iff_exists]

theorem mem_names {registry : ScopeRegistry} :
    name ∈ registry.names ↔ registry.contains name = true :=
  Std.TreeMap.mem_keys.trans Std.TreeMap.contains_iff_mem.symm

theorem length_names (registry : ScopeRegistry) : registry.names.length = registry.size :=
  Std.TreeMap.length_keys

theorem pairwise_names (registry : ScopeRegistry) : registry.names.Pairwise (· < ·) := by
  have ordered : registry.bodies.keys.Pairwise fun first second => compare first second = .lt :=
    Std.TreeMap.ordered_keys
  exact ordered.imp compareOfLessAndEq_eq_lt.1

end ScopeRegistry

end TableQuery
