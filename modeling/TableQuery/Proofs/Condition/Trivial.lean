import TableQuery.Proofs.Condition.Basic

/-!
# Trivial conditions

A condition is trivial if it holds of every record whatever the mapping. Filters contribute no such
conditions, and compilation leaves nothing of them, and of no others: `compile_eq_none_iff` and
`filterText_eq_none_iff`. A formula that is left has a text that is not blank.
-/

namespace TableQuery

/-! ## What filters add -/

namespace Filter

theorem condition?_raw (formula : String) : (raw formula).condition? =
    if Text.isBlank formula then none else some (.raw formula) := by
  cases blank : Text.isBlank formula <;> simp [raw, condition?, Condition.isTrivial, blank]

theorem condition?_ofCondition (condition : Condition) : (ofCondition condition).condition? =
    if condition.isTrivial then none else some condition := by
  cases trivial : condition.isTrivial <;> simp [ofCondition, condition?, trivial]

theorem isTrivial_ofCriterion (field : String) (criterion : Criterion) :
    (Condition.ofCriterion field criterion).isTrivial = false := by
  cases criterion <;> rfl

/-- Attributes with criteria always restrict something, unless there are none. -/
theorem condition?_ofConditions (conditions : Conditions) :
    (ofConditions conditions).condition? = conditions.condition? := by
  have kept {condition : Condition} (restricts : condition.isTrivial = false) :
      (⟨some condition⟩ : Filter).condition? = some condition := by
    simp [condition?, restricts]
  rcases conditions with ⟨_ | ⟨⟨field, criterion⟩, _ | ⟨second, rest⟩⟩⟩
  · rfl
  · exact kept (isTrivial_ofCriterion field criterion)
  · refine kept ?_
    simp [Condition.isTrivial, Condition.allTrivial, isTrivial_ofCriterion]

variable {entries : List (String × Criterion)}

/-- Attributes with criteria contribute nothing only if there are none. -/
theorem condition?_ofList_eq_none_iff :
    (ofConditions (.ofList entries)).condition? = none ↔ entries = [] := by
  rw [condition?_ofConditions]
  rcases entries with _ | ⟨entry, _ | ⟨second, rest⟩⟩ <;>
    simp [Conditions.ofList, Conditions.condition?]

/-- A single attribute contributes its criterion as it is. -/
theorem condition?_ofList_singleton (field : String) (criterion : Criterion) :
    (ofConditions (.ofList [(field, criterion)])).condition? =
      some (.ofCriterion field criterion) := by
  rw [condition?_ofConditions]
  rfl

/-- Several attributes contribute one conjunction, in the order given. -/
theorem condition?_ofList_of_several (several : 1 < entries.length) :
    (ofConditions (.ofList entries)).condition? =
      some (.and (entries.map fun entry => .ofCriterion entry.1 entry.2)) := by
  rw [condition?_ofConditions]
  rcases entries with _ | ⟨entry, _ | ⟨second, rest⟩⟩
  · cases several
  · exact absurd several (Nat.lt_irrefl 1)
  · rfl

theorem isTrivial_of_condition? {filter : Filter} {condition : Condition}
    (contributes : filter.condition? = some condition) : condition.isTrivial = false := by
  simpa using (Option.filter_eq_some_iff.1 contributes).2

end Filter

/-! ## Formulas that say something -/

namespace Formula

theorem conjunction_eq_none_iff {parts : List Formula} : conjunction parts = none ↔ parts = [] := by
  rcases parts with _ | ⟨first, _ | ⟨second, rest⟩⟩ <;> simp [conjunction]

/-- A conjunction is one of its parts, or it is written as a call. -/
theorem eq_all_or_mem_of_conjunction {parts : List Formula} {formula : Formula}
    (joined : conjunction parts = some formula) : formula = .all parts ∨ formula ∈ parts := by
  rcases parts with _ | ⟨first, _ | ⟨second, rest⟩⟩
  · cases joined
  · cases joined
    exact .inr List.mem_cons_self
  · cases joined
    exact .inl rfl

theorem isBlank_render_compare (column : String) (comparison : Comparison) (literal : Literal) :
    Text.isBlank (compare column comparison literal).render = false := by
  have brace : Text.isBlank "\x7b" = false := by decide
  simp only [render, columnRef, Text.isBlank_append, brace, Bool.false_and]

theorem isBlank_call {function : String} (spelt : Text.isBlank function = false)
    (arguments : List String) : Text.isBlank (call function arguments) = false := by
  simp only [call, Text.isBlank_append, spelt, Bool.false_and]

theorem isBlank_render_all (parts : List Formula) : Text.isBlank (all parts).render = false := by
  rw [render]
  exact isBlank_call (by decide) _

theorem isBlank_render_any (parts : List Formula) : Text.isBlank (any parts).render = false := by
  rw [render]
  exact isBlank_call (by decide) _

end Formula

/-! ## Compilation -/

namespace Condition

variable {mapping : FieldMapping}

/-- Nothing is left of several conditions if nothing is left of each of them. -/
theorem compileAll_eq_nil_iff {conditions : List Condition} :
    compileAll mapping conditions = .ok [] ↔ ∀ c ∈ conditions, compile mapping c = .ok none := by
  induction conditions with
  | nil => simp [compileAll]
  | cons c rest ih =>
    rw [compileAll, bind_eq_ok, List.forall_mem_cons, ← ih]
    constructor
    · rintro ⟨part, first, tail⟩
      obtain ⟨parts, others, joined⟩ := bind_eq_ok.1 tail
      obtain ⟨none, rfl⟩ := List.append_eq_nil_iff.1 (Except.ok.inj joined)
      exact ⟨Option.toList_eq_nil_iff.1 none ▸ first, others⟩
    · rintro ⟨first, others⟩
      exact ⟨none, first, bind_eq_ok.2 ⟨[], others, rfl⟩⟩

theorem exists_of_mem_compileAll {conditions : List Condition} {parts : List Formula}
    (compiles : compileAll mapping conditions = .ok parts) {part : Formula}
    (member : part ∈ parts) : ∃ c ∈ conditions, compile mapping c = .ok (some part) := by
  obtain ⟨each, related, rfl⟩ := compileAll_eq_ok.1 compiles
  obtain ⟨left, inside, same⟩ := List.mem_flatMap.1 member
  obtain rfl := Option.mem_toList.1 same
  exact exists_of_mem_right related inside

/-- Compilation leaves nothing of just the trivial conditions, whatever the mapping. -/
theorem compile_eq_none_iff {condition : Condition} :
    compile mapping condition = .ok none ↔ condition.isTrivial = true := by
  induction condition with
  | equals field value => simp [compile, isTrivial, bind_eq_ok, pure, Except.pure]
  | range field lower upper => simp [compile, isTrivial, bind_eq_ok, pure, Except.pure]
  | oneOf field values =>
    simp only [compile, isTrivial, bind_eq_ok]
    split <;> simp [bind_eq_ok, pure, Except.pure, throw, throwThe, MonadExceptOf.throw]
  | raw formula =>
    rw [compile, isTrivial]
    split <;> simp [*]
  | and children ih =>
    have nothing : compile mapping (.and children) = .ok none ↔
        compileAll mapping children = .ok [] := by
      rw [compile, bind_eq_ok]
      constructor
      · rintro ⟨parts, compiles, joined⟩
        rwa [Formula.conjunction_eq_none_iff.1 (Except.ok.inj joined)] at compiles
      · intro compiles
        exact ⟨[], compiles, rfl⟩
    rw [nothing, compileAll_eq_nil_iff, isTrivial, allTrivial_iff]
    exact forall₂_congr ih

/-- The text of a condition's formula is not blank. -/
theorem isBlank_render_of_compile {condition : Condition} {formula : Formula}
    (compiles : compile mapping condition = .ok (some formula)) :
    Text.isBlank formula.render = false := by
  induction condition generalizing formula with
  | equals field value =>
    obtain ⟨column, _, compiles⟩ := bind_eq_ok.1 compiles
    obtain ⟨literal, _, compiles⟩ := bind_eq_ok.1 compiles
    cases compiles
    exact Formula.isBlank_render_compare column .eq literal
  | range field lower upper =>
    obtain ⟨column, _, compiles⟩ := bind_eq_ok.1 compiles
    obtain ⟨least, _, compiles⟩ := bind_eq_ok.1 compiles
    obtain ⟨bound, _, compiles⟩ := bind_eq_ok.1 compiles
    cases compiles
    exact Formula.isBlank_render_all _
  | oneOf field values =>
    obtain ⟨column, _, compiles⟩ := bind_eq_ok.1 compiles
    dsimp only at compiles
    split at compiles
    case isTrue => cases compiles
    case isFalse =>
      obtain ⟨literals, _, compiles⟩ := bind_eq_ok.1 compiles
      cases compiles
      exact Formula.isBlank_render_any _
  | raw text =>
    rw [compile] at compiles
    split at compiles
    case isTrue => cases compiles
    case isFalse blank =>
      cases compiles
      exact Bool.eq_false_iff.2 blank
  | and children ih =>
    obtain ⟨parts, all, compiles⟩ := bind_eq_ok.1 compiles
    rcases Formula.eq_all_or_mem_of_conjunction (Except.ok.inj compiles) with rfl | member
    · exact Formula.isBlank_render_all parts
    · obtain ⟨child, inside, alone⟩ := exists_of_mem_compileAll all member
      exact ih child inside alone

end Condition

namespace Formula

variable {mapping : FieldMapping} {conditions : List Condition}

/-- Several conditions compile as their conjunction does. -/
theorem ofConditions_eq_compile (mapping : FieldMapping) (conditions : List Condition) :
    ofConditions mapping conditions = Condition.compile mapping (.and conditions) := by
  rw [ofConditions, Condition.compile]
  cases Condition.compileAll mapping conditions <;> rfl

/-- There is no text just where all the conditions are trivial. -/
theorem filterText_eq_none_iff :
    filterText mapping conditions = .ok none ↔ ∀ c ∈ conditions, c.isTrivial = true := by
  rw [filterText, map_eq_ok, ← Condition.allTrivial_iff]
  simp only [Option.map_eq_none_iff, exists_eq_right, ofConditions_eq_compile,
    Condition.compile_eq_none_iff, Condition.isTrivial]

/-- A condition is trivial just if nothing is left of it in any text. -/
theorem isTrivial_iff_filterText {condition : Condition} :
    condition.isTrivial = true ↔ ∀ mapping, filterText mapping [condition] = .ok none := by
  simp only [filterText_eq_none_iff, List.mem_singleton, forall_eq, forall_const]

theorem isBlank_of_filterText {text : String}
    (compiles : filterText mapping conditions = .ok (some text)) :
    Text.isBlank text = false := by
  obtain ⟨joined, compiled, rendered⟩ := map_eq_ok.1 compiles
  obtain ⟨formula, rfl, rfl⟩ := Option.map_eq_some_iff.1 rendered
  rw [ofConditions_eq_compile] at compiled
  exact Condition.isBlank_render_of_compile compiled

end Formula

end TableQuery
