import TableQuery.Proofs.Condition.Basic
import TableQuery.Relation.Basic

/-!
# The faults of queries

A query is checked one thing at a time while it is compiled, and compilation fails with the first
thing that is wrong. `Query.checks` lists what is looked at, in order and whatever the mapping:
conditions before sort keys, conditions and their parts from left to right, and in a comparison the
attribute, then whether there are values at all, then the values. `Check.fault?` says what is wrong
with one of these things under a mapping. `Query.errorOf?_compile` finds the error of a compilation
in that list, and `Relation.compile_first_fault` draws the conclusions: a relation compiles unless a
comparison somewhere in it or one of its sort keys is invalid.
-/

namespace TableQuery

/-! ## Checks -/

/-- What is asked of the attribute of a comparison or of a sort key. -/
inductive Demand where
  /-- A comparison names its attribute. -/
  | name
  /-- The column of that attribute has a name. -/
  | column
  /-- A membership test has some values. -/
  | someOf (values : List Value)
  /-- The value compared with has a literal. -/
  | literal (value : Value)
  | sortName
  | sortColumn

/-- A demand on an attribute. -/
structure Check where
  field : String
  demand : Demand

/-- What keeps a value from being compared with. -/
def Value.literalFault? : Value → Option FieldFault
  | .list _ => some .listCompared
  | .float x => if x.isFinite then none else some (.notFinite (Decimal.nonFiniteName x))
  | _ => none

namespace Check

/-- What is wrong, if the demand is not met. -/
def fault? (mapping : FieldMapping) : Check → Option FieldFault
  | ⟨field, .name⟩ => if field = "" then some .emptyName else none
  | ⟨field, .column⟩ => if mapping.resolve field = "" then some .emptyColumn else none
  | ⟨_, .someOf values⟩ => if values.isEmpty then some .noValues else none
  | ⟨_, .literal value⟩ => value.literalFault?
  | ⟨field, .sortName⟩ => if field = "" then some .emptySortName else none
  | ⟨field, .sortColumn⟩ => if mapping.resolve field = "" then some .emptySortColumn else none

/-- The error that reports a fault of the attribute, under its own name if it has one. -/
def report (check : Check) (fault : FieldFault) : Error :=
  .invalidField (if check.field = "" then none else some check.field) fault

def error? (mapping : FieldMapping) (check : Check) : Option Error :=
  (check.fault? mapping).map check.report

theorem error?_of_named {check : Check} (named : check.field ≠ "") (mapping : FieldMapping) :
    check.error? mapping = (check.fault? mapping).map (.invalidField (some check.field)) := by
  have reports : check.report = .invalidField (some check.field) :=
    funext fun fault => by rw [report, if_neg named]
  rw [error?, reports]

/-- An attribute needs a name, and then a column with a name. -/
def ofAttribute (field : String) : List Check := [⟨field, .name⟩, ⟨field, .column⟩]

def ofValues (field : String) (values : List Value) : List Check :=
  values.map fun value => ⟨field, .literal value⟩

end Check

namespace Condition

mutual

/-- What is looked at in a condition, in order; a formula in the store's words is not looked
into. -/
def checks : Condition → List Check
  | .equals field value => Check.ofAttribute field ++ Check.ofValues field [value]
  | .range field lower upper => Check.ofAttribute field ++ Check.ofValues field [lower, upper]
  | .oneOf field values =>
    Check.ofAttribute field ++ ⟨field, .someOf values⟩ :: Check.ofValues field values
  | .raw _ => []
  | .and children => allChecks children

def allChecks : List Condition → List Check
  | [] => []
  | child :: rest => checks child ++ allChecks rest

end

end Condition

def OrderBy.checks (key : OrderBy) : List Check :=
  [⟨key.field, .sortName⟩, ⟨key.field, .sortColumn⟩]

/-- What is looked at in a query, in order. -/
def Query.checks (query : Query) : List Check :=
  Condition.allChecks query.conditions ++ query.order.flatMap OrderBy.checks

/-! ## The first fault -/

variable {mapping : FieldMapping} {field : String}

theorem errorOf?_column : errorOf? (Formula.column mapping field) =
    (Check.ofAttribute field).findSome? (Check.error? mapping) := by
  unfold Formula.column
  by_cases unnamed : field = ""
  · simp [Check.ofAttribute, Check.error?, Check.fault?, Check.report, unnamed, errorOf?]
  · by_cases empty : mapping.resolve field = "" <;>
      simp [Check.ofAttribute, Check.error?, Check.fault?, Check.report, unnamed, empty, errorOf?]

theorem named_of_column {column : String} (found : Formula.column mapping field = .ok column) :
    field ≠ "" := by
  rintro rfl
  cases found

theorem errorOf?_literal (named : field ≠ "") (value : Value) :
    errorOf? (Formula.literal field value) = (⟨field, .literal value⟩ : Check).error? mapping := by
  rw [Check.error?_of_named named, Check.fault?]
  cases value with
  | float x =>
    rw [Formula.literal, Formula.Literal.ofValue, Value.literalFault?]
    split <;> rfl
  | _ => rfl

theorem errorOf?_literals (named : field ≠ "") (values : List Value) :
    errorOf? (values.mapM (Formula.literal field)) =
      (Check.ofValues field values).findSome? (Check.error? mapping) := by
  rw [errorOf?_mapM, Check.ofValues, List.findSome?_map]
  exact congrArg (values.findSome? ·) (funext (errorOf?_literal named))

namespace Condition

theorem errorOf?_compileAll {conditions : List Condition}
    (each : ∀ c ∈ conditions,
      errorOf? (compile mapping c) = c.checks.findSome? (Check.error? mapping)) :
    errorOf? (compileAll mapping conditions) =
      (allChecks conditions).findSome? (Check.error? mapping) := by
  induction conditions with
  | nil => rfl
  | cons c rest ih =>
    rw [compileAll, allChecks, List.findSome?_append, ← each c List.mem_cons_self]
    refine errorOf?_bind fun part _ => ?_
    rw [errorOf?_bind_pure]
    exact ih fun other member => each other (List.mem_cons_of_mem _ member)

theorem errorOf?_compile (condition : Condition) : errorOf? (compile mapping condition) =
    condition.checks.findSome? (Check.error? mapping) := by
  induction condition with
  | equals field value =>
    rw [compile, checks, List.findSome?_append, ← errorOf?_column]
    refine errorOf?_bind fun column found => ?_
    rw [errorOf?_bind_pure, errorOf?_literal (named_of_column found)]
    exact List.findSome?_singleton.symm
  | range field lower upper =>
    rw [compile, checks, List.findSome?_append, ← errorOf?_column]
    refine errorOf?_bind fun column found => ?_
    have named := named_of_column found
    rw [Check.ofValues, List.map_cons, findSome?_cons_or, ← errorOf?_literal named]
    refine errorOf?_bind fun atLeast _ => ?_
    rw [errorOf?_bind_pure, errorOf?_literal named]
    exact List.findSome?_singleton.symm
  | oneOf field values =>
    rw [compile, checks, List.findSome?_append, ← errorOf?_column]
    refine errorOf?_bind fun column found => ?_
    have named := named_of_column found
    rw [findSome?_cons_or, Check.error?_of_named named, Check.fault?]
    cases values.isEmpty with
    | true => rfl
    | false =>
      refine (errorOf?_bind_pure ..).trans ?_
      exact errorOf?_literals named values
  | raw formula => rfl
  | and children ih => rw [compile, errorOf?_bind_pure, errorOf?_compileAll ih, checks]

end Condition

theorem OrderBy.errorOf?_compile (key : OrderBy) :
    errorOf? (key.compile mapping) = key.checks.findSome? (Check.error? mapping) := by
  unfold OrderBy.compile
  by_cases unnamed : key.field = ""
  · simp [checks, Check.error?, Check.fault?, Check.report, unnamed, errorOf?]
  · by_cases empty : mapping.resolve key.field = "" <;>
      simp [checks, Check.error?, Check.fault?, Check.report, unnamed, empty, errorOf?]

theorem OrderBy.errorOf?_compileAll (keys : List OrderBy) :
    errorOf? (keys.mapM (OrderBy.compile mapping)) =
      (keys.flatMap checks).findSome? (Check.error? mapping) := by
  rw [errorOf?_mapM]
  induction keys with
  | nil => rfl
  | cons key rest ih =>
    rw [findSome?_cons_or, List.flatMap_cons, List.findSome?_append, key.errorOf?_compile, ih]

/-- Compilation fails with the first fault in the order of the checks. -/
theorem Query.errorOf?_compile (query : Query) :
    errorOf? (query.compile mapping) = query.checks.findSome? (Check.error? mapping) := by
  have filter : errorOf? (Formula.filterText mapping query.conditions) =
      (Condition.allChecks query.conditions).findSome? (Check.error? mapping) := by
    rw [Formula.filterText, Formula.ofConditions, errorOf?_map, errorOf?_map]
    exact Condition.errorOf?_compileAll fun c _ => c.errorOf?_compile
  rw [compile, checks, List.findSome?_append, ← filter, ← OrderBy.errorOf?_compileAll]
  refine errorOf?_bind fun text _ => ?_
  rw [errorOf?_bind_pure]

/-! ## Invalid comparisons -/

/-- There is no literal of the value: it is a list or a number that is not finite. -/
def Value.Incomparable (value : Value) : Prop :=
  (∃ items, value = .list items) ∨ ∃ x, value = .float x ∧ x.isFinite = false

theorem Value.literalFault?_eq_none {value : Value} :
    value.literalFault? = none ↔ ¬value.Incomparable := by
  cases value with
  | float x => cases finite : x.isFinite <;> simp [literalFault?, Incomparable, finite]
  | _ => simp [literalFault?, Incomparable]

/-- The attribute or its column has no name. -/
def FieldMapping.Nameless (mapping : FieldMapping) (field : String) : Prop :=
  field = "" ∨ mapping.resolve field = ""

namespace Condition

/-- The condition occurs in the other one, at any depth. -/
inductive Within : Condition → Condition → Prop
  | self {node : Condition} : Within node node
  | child {node child : Condition} {children : List Condition} :
    child ∈ children → Within node child → Within node (.and children)

/-- The comparison has no formula. -/
def Invalid (mapping : FieldMapping) : Condition → Prop
  | .equals field value => mapping.Nameless field ∨ value.Incomparable
  | .range field lower upper =>
    mapping.Nameless field ∨ lower.Incomparable ∨ upper.Incomparable
  | .oneOf field values =>
    mapping.Nameless field ∨ values = [] ∨ ∃ value ∈ values, value.Incomparable
  | .raw _ | .and _ => False

/-- In anything but a conjunction nothing else occurs. -/
theorem exists_within_iff {p : Condition → Prop} {leaf : Condition}
    (single : ∀ children, leaf ≠ .and children) :
    (∃ node : Condition, node.Within leaf ∧ p node) ↔ p leaf := by
  constructor
  · rintro ⟨node, _ | ⟨member, _⟩, holds⟩
    · exact holds
    · exact absurd rfl (single _)
  · exact fun holds => ⟨leaf, .self, holds⟩

theorem mem_allChecks {conditions : List Condition} {check : Check} :
    check ∈ allChecks conditions ↔ ∃ c ∈ conditions, check ∈ c.checks := by
  induction conditions with
  | nil => simp [allChecks]
  | cons c rest ih => simp [allChecks, ih]

theorem exists_fault_ofAttribute :
    (∃ check ∈ Check.ofAttribute field, check.fault? mapping ≠ none) ↔ mapping.Nameless field := by
  simp [Check.ofAttribute, Check.fault?, FieldMapping.Nameless]

theorem exists_fault_ofValues {values : List Value} :
    (∃ check ∈ Check.ofValues field values, check.fault? mapping ≠ none) ↔
      ∃ value ∈ values, value.Incomparable := by
  simp [Check.ofValues, Check.fault?, Value.literalFault?_eq_none]

/-- Something is wrong with a condition exactly if some comparison in it is invalid. -/
theorem exists_fault_iff (condition : Condition) :
    (∃ check ∈ condition.checks, check.fault? mapping ≠ none) ↔
      ∃ node : Condition, node.Within condition ∧ node.Invalid mapping := by
  induction condition with
  | equals field value | range field lower upper =>
    rw [exists_within_iff (by simp)]
    simp only [checks, List.mem_append, or_and_right, exists_or, exists_fault_ofAttribute,
      exists_fault_ofValues]
    simp [Invalid]
  | oneOf field values =>
    rw [exists_within_iff (by simp)]
    simp only [checks, List.mem_append, List.mem_cons, or_and_right, exists_or,
      exists_fault_ofAttribute, exists_fault_ofValues]
    simp [Invalid, Check.fault?]
  | raw formula =>
    rw [exists_within_iff (by simp)]
    simp [checks, Invalid]
  | and children ih =>
    rw [checks]
    constructor
    · rintro ⟨check, member, faulty⟩
      obtain ⟨child, inside, member⟩ := mem_allChecks.1 member
      obtain ⟨node, within, invalid⟩ := (ih child inside).1 ⟨check, member, faulty⟩
      exact ⟨node, .child inside within, invalid⟩
    · rintro ⟨node, _ | ⟨inside, within⟩, invalid⟩
      · cases invalid
      · obtain ⟨check, member, faulty⟩ := (ih _ inside).2 ⟨node, within, invalid⟩
        exact ⟨check, mem_allChecks.2 ⟨_, inside, member⟩, faulty⟩

/-! ## Conditions without checks -/

theorem allChecks_append (first second : List Condition) :
    allChecks (first ++ second) = allChecks first ++ allChecks second := by
  induction first with
  | nil => rfl
  | cons c rest ih => rw [List.cons_append, allChecks, ih, allChecks, List.append_assoc]

theorem checks_of_isTrivial {condition : Condition} (trivial : condition.isTrivial = true) :
    condition.checks = [] := by
  induction condition with
  | raw formula => rfl
  | and children ih =>
    have each := allTrivial_iff.1 trivial
    refine List.eq_nil_iff_forall_not_mem.2 fun check member => ?_
    obtain ⟨child, inside, member⟩ := mem_allChecks.1 member
    rw [ih child inside (each child inside)] at member
    cases member
  | _ => cases trivial

end Condition

/-! ## Relations -/

theorem OrderBy.exists_fault_iff (key : OrderBy) :
    (∃ check ∈ key.checks, check.fault? mapping ≠ none) ↔ mapping.Nameless key.field := by
  simp [checks, Check.fault?, FieldMapping.Nameless]

theorem Query.exists_fault_iff (query : Query) :
    (∃ check ∈ query.checks, check.fault? mapping ≠ none) ↔
      (∃ c ∈ query.conditions, ∃ node : Condition, node.Within c ∧ node.Invalid mapping) ∨
        ∃ key ∈ query.order, mapping.Nameless key.field := by
  simp only [← Condition.exists_fault_iff, ← OrderBy.exists_fault_iff, checks, List.mem_append,
    List.mem_flatMap, Condition.mem_allChecks]
  constructor
  · rintro ⟨check, ⟨c, inside, member⟩ | ⟨key, inside, member⟩, faulty⟩
    · exact .inl ⟨c, inside, check, member, faulty⟩
    · exact .inr ⟨key, inside, check, member, faulty⟩
  · rintro (⟨c, inside, check, member, faulty⟩ | ⟨key, inside, check, member, faulty⟩)
    · exact ⟨check, .inl ⟨c, inside, member⟩, faulty⟩
    · exact ⟨check, .inr ⟨key, inside, member⟩, faulty⟩

namespace Relation

variable {α : Type} {model : Model α}

theorem compile_eq_error (relation : Relation model) (e : Error) : relation.compile = .error e ↔
    relation.query.checks.findSome? (Check.error? model.mapping) = some e := by
  rw [← Query.errorOf?_compile, errorOf?_eq_some]
  rfl

/-- A relation compiles unless an attribute, a column, a membership test or a value somewhere in it
is invalid. Otherwise the error is that of the first check that is not met, and it names the
attribute as the condition or the sort key does, if that is not empty. Formulas in the store's words
and trivial conditions make no difference to it, and neither do the limit, the offset and what is
loaded. -/
theorem compile_first_fault (relation : Relation model) :
    ((∃ e, relation.compile = .error e) ↔
      (∃ c ∈ relation.query.conditions,
        ∃ node : Condition, node.Within c ∧ node.Invalid model.mapping) ∨
      ∃ key ∈ relation.query.order, model.mapping.Nameless key.field) ∧
    (∀ e, relation.compile = .error e ↔ ∃ before check after fault,
      relation.query.checks = before ++ check :: after ∧
      (∀ earlier ∈ before, earlier.fault? model.mapping = none) ∧
      check.fault? model.mapping = some fault ∧
      e = .invalidField (if check.field = "" then none else some check.field) fault) ∧
    (∀ before c after, relation.query.conditions = before ++ c :: after →
      c.isTrivial = true ∨ (∃ formula, c = .raw formula) →
      ∀ e, relation.compile = .error e ↔
        (ofQuery { relation.query with conditions := before ++ after } :
          Relation model).compile = .error e) ∧
    ∀ limit offset loaded e,
      ({ query := { relation.query with limit, offset }, loaded } : Relation model).compile =
        .error e ↔ relation.compile = .error e := by
  refine ⟨?_, ?_, ?_, ?_⟩
  · simp only [compile_eq_error]
    rw [← Query.exists_fault_iff, ← Option.isSome_iff_exists, List.findSome?_isSome_iff]
    simp only [Check.error?, Option.isSome_map, Option.isSome_iff_ne_none]
  · intro e
    rw [compile_eq_error, List.findSome?_eq_some_iff]
    simp only [Check.error?, Option.map_eq_some_iff, Option.map_eq_none_iff]
    constructor
    · rintro ⟨before, check, after, cut, ⟨fault, faulty, rfl⟩, met⟩
      exact ⟨before, check, after, fault, cut, met, faulty, rfl⟩
    · rintro ⟨before, check, after, fault, cut, met, faulty, rfl⟩
      exact ⟨before, check, after, cut, ⟨fault, faulty, rfl⟩, met⟩
  · intro before c after cut silent e
    have unchecked : c.checks = [] := by
      rcases silent with trivial | ⟨formula, rfl⟩
      · exact Condition.checks_of_isTrivial trivial
      · rfl
    have same : relation.query.checks =
        ({ relation.query with conditions := before ++ after } : Query).checks := by
      simp only [Query.checks, cut, Condition.allChecks_append, Condition.allChecks, unchecked,
        List.nil_append]
    rw [compile_eq_error, compile_eq_error, same]
    rfl
  · intro limit offset loaded e
    rw [compile_eq_error, compile_eq_error]
    rfl

/-- A number inside a conjunction is found before the nameless sort key, and is reported for the
attribute, not for its column. -/
theorem compile_first_fault_of_nested :
    let mapping : FieldMapping := .ofList [⟨"age", "Age", false, .other⟩]
    let model : Model Record := { table := "Users", mapping, ofRecord := .ok }
    let infinity : Value := .float (.ofBits 0x7FF0000000000000)
    let nested : Condition := .and [.and [], .oneOf "age" [.int 1, infinity, .list []]]
    let fails : Except Error FetchParams := .error (.invalidField (some "age") (.notFinite "inf"))
    let relation : Relation model :=
      ofQuery { conditions := [.raw "\x7b", nested], order := [.asc ""] }
    relation.compile = fails ∧
      (ofQuery { relation.query with conditions := [nested] } : Relation model).compile =
        fails := by
  intro mapping model infinity nested fails relation
  obtain ⟨_, first, silent, _⟩ := compile_first_fault relation
  have found := (first _).2 ⟨[⟨"age", .name⟩, ⟨"age", .column⟩, ⟨"age", .someOf _⟩,
    ⟨"age", .literal (.int 1)⟩], ⟨"age", .literal infinity⟩, _, .notFinite "inf", rfl,
    by decide +kernel, by decide +kernel, rfl⟩
  exact ⟨found, (silent [] (.raw "\x7b") [nested] rfl (.inr ⟨_, rfl⟩) _).1 found⟩

end Relation

end TableQuery
