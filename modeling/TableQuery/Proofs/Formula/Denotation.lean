import TableQuery.Proofs.Condition.Basic
import TableQuery.Proofs.Formula.Number
import TableQuery.Proofs.Formula.RoundTrip

/-!
# What conditions denote

Conditions denote a formula apart from any compilation: `tree?` keeps every conjunction as it was
given, and `prune` then drops those without a part and replaces those with a single part by it.
`Formula.Holds` and `Condition.Holds` say when a formula and a condition are true, for any meaning
of comparisons.

Compilation of conditions without formulas in the store's words gives the text of the formula that
they denote, and only that formula can be read from it. So the text keeps all that the conditions
say: it cannot be that of other conditions, unless these denote the same, and the formula read from
it is true exactly when every condition is.
-/

namespace TableQuery

open Formula (Comparison Literal)

/-! ## Denotation -/

/-- The literal with which a value is compared, if it has one. Numbers are kept as their text. -/
def Value.constant? : Value → Option Literal
  | .null => some .blank
  | .bool b => some (.bool b)
  | .int n => some (.number (Decimal.writeInt n.toInt))
  | .float x => if x.isFinite then some (.number (Formula.numberLayout.write x)) else none
  | .text s => some (.text s)
  | .list _ => none

/-- The comparison of an attribute's column with a value. -/
def Formula.compared? (mapping : FieldMapping) (field : String) (comparison : Comparison)
    (value : Value) : Option Formula :=
  value.constant?.map (.compare (mapping.resolve field) comparison)

namespace Condition

open Formula in
mutual

/-- The formula of a condition with every conjunction kept, if each value has a literal and nothing
is given in the store's words. -/
def tree? (mapping : FieldMapping) : Condition → Option Formula
  | .equals field value => compared? mapping field .eq value
  | .range field lower upper => do
    let atLeast ← compared? mapping field .ge lower
    let below ← compared? mapping field .lt upper
    some (.all [atLeast, below])
  | .oneOf field values => (values.mapM (compared? mapping field .eq)).map .any
  | .raw _ => none
  | .and children => (trees? mapping children).map .all

def trees? (mapping : FieldMapping) : List Condition → Option (List Formula)
  | [] => some []
  | child :: rest => do
    let tree ← tree? mapping child
    let trees ← trees? mapping rest
    some (tree :: trees)

end

end Condition

namespace Formula

mutual

/-- The formula without conjunctions of no part, and with the part of a conjunction of one in its
place; nothing if nothing is left. -/
def prune : Formula → Option Formula
  | .all parts => match pruneParts parts with
    | [] => none
    | [part] => some part
    | parts => some (.all parts)
  | formula => some formula

/-- What is left of each part, in order. -/
def pruneParts : List Formula → List Formula
  | [] => []
  | part :: rest => (prune part).toList ++ pruneParts rest

end

end Formula

/-- The formula that conditions denote together, if anything is left of it. -/
def Condition.denoted? (mapping : FieldMapping) (conditions : List Condition) : Option Formula :=
  (trees? mapping conditions).bind fun trees => (Formula.all trees).prune

/-! ## Truth -/

/-- What it means that a column compares with a literal in some way. -/
abbrev Meaning := String → Comparison → Literal → Prop

/-- The formula is true; a formula in the store's own words means nothing here. -/
def Formula.Holds (meaning : Meaning) : Formula → Prop
  | .compare column comparison literal => meaning column comparison literal
  | .raw _ => False
  | .all parts => ∀ part ∈ parts, part.Holds meaning
  | .any parts => ∃ (part : Formula) (_ : part ∈ parts), part.Holds meaning

/-- The column of an attribute compares with a value. -/
def Meaning.Meets (meaning : Meaning) (mapping : FieldMapping) (field : String)
    (comparison : Comparison) (value : Value) : Prop :=
  ∃ literal, value.constant? = some literal ∧ meaning (mapping.resolve field) comparison literal

/-- The condition is true: a range includes its lower end and excludes its upper one, and a
membership test asks for one of its values. -/
def Condition.Holds (mapping : FieldMapping) (meaning : Meaning) : Condition → Prop
  | .equals field value => meaning.Meets mapping field .eq value
  | .range field lower upper =>
    meaning.Meets mapping field .ge lower ∧ meaning.Meets mapping field .lt upper
  | .oneOf field values => ∃ value ∈ values, meaning.Meets mapping field .eq value
  | .raw _ => False
  | .and children => ∀ child ∈ children, child.Holds mapping meaning

/-! ## Compilation denotes -/

namespace Condition

variable {mapping : FieldMapping}

/-- What a condition without a formula in the store's words is compiled into. -/
inductive Compiles (mapping : FieldMapping) : Condition → Option Formula → Prop
  | equals {field : String} {value : Value} {literal : Literal}
    (constant : Literal.ofValue value = .ok literal) :
    Compiles mapping (.equals field value) (some (.compare (mapping.resolve field) .eq literal))
  | range {field : String} {lower upper : Value} {atLeast below : Literal}
    (least : Literal.ofValue lower = .ok atLeast) (bound : Literal.ofValue upper = .ok below) :
    Compiles mapping (.range field lower upper)
      (some (.all [.compare (mapping.resolve field) .ge atLeast,
        .compare (mapping.resolve field) .lt below]))
  | oneOf {field : String} {values : List Value} {literals : List Literal}
    (nonempty : values ≠ [])
    (constants : List.Forall₂ (fun value literal => Literal.ofValue value = .ok literal)
      values literals) :
    Compiles mapping (.oneOf field values)
      (some (.any (literals.map (.compare (mapping.resolve field) .eq ·))))
  | and {children : List Condition} {each : List (Option Formula)}
    (all : List.Forall₂ (fun c part => compile mapping c = .ok part) children each) :
    Compiles mapping (.and children) (Formula.conjunction (each.flatMap Option.toList))

theorem column_eq_of_ok {field column : String}
    (found : Formula.column mapping field = .ok column) : column = mapping.resolve field := by
  unfold Formula.column at found
  split at found
  · cases found
  · dsimp only at found
    split at found
    · cases found
    · cases found
      rfl

/-- A successful compilation, kind by kind. -/
theorem compiles_of_compile {condition : Condition} {part : Option Formula}
    (structured : condition.isStructured = true)
    (compiled : compile mapping condition = .ok part) : Compiles mapping condition part := by
  cases condition with
  | equals field value =>
    rw [compile] at compiled
    obtain ⟨column, found, compiled⟩ := bind_eq_ok.1 compiled
    obtain ⟨literal, constant, same⟩ := bind_eq_ok.1 compiled
    cases same
    rw [column_eq_of_ok found]
    exact .equals (mapError_eq_ok.1 constant)
  | range field lower upper =>
    rw [compile] at compiled
    obtain ⟨column, found, compiled⟩ := bind_eq_ok.1 compiled
    obtain ⟨atLeast, least, compiled⟩ := bind_eq_ok.1 compiled
    obtain ⟨below, bound, same⟩ := bind_eq_ok.1 compiled
    cases same
    rw [column_eq_of_ok found]
    exact .range (mapError_eq_ok.1 least) (mapError_eq_ok.1 bound)
  | oneOf field values =>
    rw [compile] at compiled
    obtain ⟨column, found, compiled⟩ := bind_eq_ok.1 compiled
    split at compiled
    · cases compiled
    · rename_i some
      obtain ⟨literals, constants, same⟩ := bind_eq_ok.1 compiled
      cases same
      rw [column_eq_of_ok found]
      refine .oneOf (fun none => some (List.isEmpty_iff.2 none)) ?_
      exact (mapM_eq_ok.1 constants).imp fun _ _ constant => mapError_eq_ok.1 constant
  | raw formula => cases structured
  | and children =>
    rw [compile] at compiled
    obtain ⟨parts, compiledAll, same⟩ := bind_eq_ok.1 compiled
    obtain ⟨each, all, rfl⟩ := compileAll_eq_ok.1 compiledAll
    cases same
    exact .and all

theorem constant?_of_ofValue {value : Value} {literal : Literal}
    (constant : Literal.ofValue value = .ok literal) : value.constant? = some literal := by
  cases value with
  | null => cases constant; rfl
  | bool b => cases constant; rfl
  | int n => cases constant; rfl
  | float x =>
    rw [Literal.ofValue] at constant
    rw [Value.constant?]
    split at constant
    · rename_i finite
      cases constant
      rw [if_pos finite]
    · cases constant
  | text s => cases constant; rfl
  | list items => cases constant

theorem compared?_of_ofValue {value : Value} {literal : Literal}
    (constant : Literal.ofValue value = .ok literal) (field : String) (comparison : Comparison) :
    Formula.compared? mapping field comparison value =
      some (.compare (mapping.resolve field) comparison literal) := by
  rw [Formula.compared?, constant?_of_ofValue constant]
  rfl

theorem mapM_compared? {values : List Value} {literals : List Literal}
    (constants : List.Forall₂ (fun value literal => Literal.ofValue value = .ok literal)
      values literals) (field : String) :
    values.mapM (Formula.compared? mapping field .eq) =
      some (literals.map (.compare (mapping.resolve field) .eq ·)) := by
  induction constants with
  | nil => rfl
  | cons first _ ih =>
    rw [List.mapM_cons, compared?_of_ofValue first, ih]
    rfl

/-- Conditions that denote what they are compiled into do so together. -/
theorem exists_trees_of_compile {conditions : List Condition} {each : List (Option Formula)}
    (all : List.Forall₂ (fun c part => compile mapping c = .ok part) conditions each)
    (denotes : ∀ c ∈ conditions, ∀ part, compile mapping c = .ok part →
      ∃ tree, c.tree? mapping = some tree ∧ tree.prune = part) :
    ∃ trees, trees? mapping conditions = some trees ∧
      Formula.pruneParts trees = each.flatMap Option.toList := by
  induction all with
  | nil => exact ⟨[], rfl, rfl⟩
  | @cons c part rest others compiled _ ih =>
    obtain ⟨tree, first, pruned⟩ := denotes c List.mem_cons_self part compiled
    obtain ⟨trees, later, prunedAll⟩ :=
      ih fun other member => denotes other (List.mem_cons_of_mem _ member)
    refine ⟨tree :: trees, by rw [trees?, first, later]; rfl, ?_⟩
    rw [Formula.pruneParts, pruned, prunedAll, List.flatMap_cons]

theorem prune_all (parts : List Formula) :
    (Formula.all parts).prune = Formula.conjunction (Formula.pruneParts parts) := by
  rw [Formula.prune]
  rcases Formula.pruneParts parts with _ | ⟨part, _ | ⟨next, rest⟩⟩ <;> rfl

/-- A compiled condition denotes what it is compiled into. -/
theorem exists_tree_of_compile {condition : Condition} {part : Option Formula}
    (structured : condition.isStructured = true)
    (compiled : compile mapping condition = .ok part) :
    ∃ tree, condition.tree? mapping = some tree ∧ tree.prune = part := by
  induction condition generalizing part with
  | equals field value =>
    cases compiles_of_compile structured compiled with
    | equals constant =>
      exact ⟨_, by rw [tree?, compared?_of_ofValue constant], rfl⟩
  | range field lower upper =>
    cases compiles_of_compile structured compiled with
    | range least bound =>
      exact ⟨_, by rw [tree?, compared?_of_ofValue least, compared?_of_ofValue bound]; rfl, rfl⟩
  | oneOf field values =>
    cases compiles_of_compile structured compiled with
    | oneOf nonempty constants =>
      exact ⟨_, by rw [tree?, mapM_compared? constants]; rfl, rfl⟩
  | raw formula => cases structured
  | and children ih =>
    cases compiles_of_compile structured compiled with
    | and all =>
      have children := allStructured_iff.1 structured
      obtain ⟨trees, there, pruned⟩ := exists_trees_of_compile all
        fun c member part compiled => ih c member (children c member) compiled
      exact ⟨.all trees, by rw [tree?, there]; rfl, by rw [prune_all, pruned]⟩

/-! ## What is compiled is legible and true -/

theorem isLegible_of_conjunction {parts : List Formula} {formula : Formula}
    (legible : ∀ part ∈ parts, part.IsLegible)
    (joined : Formula.conjunction parts = some formula) : formula.IsLegible := by
  rcases parts with _ | ⟨part, _ | ⟨next, rest⟩⟩
  · cases joined
  · cases joined
    exact legible _ List.mem_cons_self
  · cases joined
    exact .all (List.cons_ne_nil _ _) legible

/-- No column that a structured condition names makes its formula ambiguous, unless the name itself
has a closing brace. -/
theorem isLegible_of_compile {condition : Condition} {formula : Formula}
    (structured : condition.isStructured = true)
    (braceless : ∀ field ∈ condition.fields, '\x7d' ∉ (mapping.resolve field).toList)
    (compiled : compile mapping condition = .ok (some formula)) : formula.IsLegible := by
  induction condition generalizing formula with
  | equals field value =>
    have name := braceless field List.mem_cons_self
    cases compiles_of_compile structured compiled with
    | equals constant => exact .compare name (Formula.Literal.isLegible_of_ofValue constant)
  | range field lower upper =>
    have name := braceless field List.mem_cons_self
    cases compiles_of_compile structured compiled with
    | range least bound =>
      refine .all (List.cons_ne_nil _ _) fun part member => ?_
      simp only [List.mem_cons, List.not_mem_nil, or_false] at member
      rcases member with rfl | rfl
      · exact .compare name (Formula.Literal.isLegible_of_ofValue least)
      · exact .compare name (Formula.Literal.isLegible_of_ofValue bound)
  | oneOf field values =>
    have name := braceless field List.mem_cons_self
    cases compiles_of_compile structured compiled with
    | @oneOf _ _ literals nonempty constants =>
      refine .any ?_ fun part member => ?_
      · intro none
        have empty : literals = [] := List.map_eq_nil_iff.1 none
        subst empty
        cases constants
        exact nonempty rfl
      · obtain ⟨literal, inside, rfl⟩ := List.mem_map.1 member
        obtain ⟨value, _, constant⟩ := exists_of_mem_right constants inside
        exact .compare name (Formula.Literal.isLegible_of_ofValue constant)
  | raw formula => cases structured
  | and children ih =>
    have childStructured := allStructured_iff.1 structured
    generalize joined : some formula = part at compiled
    cases compiles_of_compile structured compiled with
    | and all =>
      refine isLegible_of_conjunction (fun part member => ?_) joined.symm
      obtain ⟨one, inside, here⟩ := List.mem_flatMap.1 member
      obtain ⟨c, child, compiledChild⟩ := exists_of_mem_right all inside
      rw [Option.mem_toList] at here
      cases here
      exact ih c child (childStructured c child)
        (fun field named => braceless field (mem_allFields.2 ⟨c, child, named⟩)) compiledChild

theorem holds_conjunction {meaning : Meaning} (parts : List Formula) :
    (∀ formula ∈ Formula.conjunction parts, formula.Holds meaning) ↔
      ∀ part ∈ parts, part.Holds meaning := by
  rcases parts with _ | ⟨part, _ | ⟨next, rest⟩⟩
  · simp [Formula.conjunction]
  · simp [Formula.conjunction]
  · simp [Formula.conjunction, Formula.Holds]

theorem meets_iff_of_ofValue {meaning : Meaning} {value : Value} {literal : Literal}
    (constant : Literal.ofValue value = .ok literal) (field : String) (comparison : Comparison) :
    meaning.Meets mapping field comparison value ↔
      meaning (mapping.resolve field) comparison literal := by
  simp [Meaning.Meets, constant?_of_ofValue constant]

/-- What a condition is compiled into is true exactly when the condition is; a condition that
leaves nothing behind is always true. -/
theorem holds_iff_of_compile (meaning : Meaning) {condition : Condition} {part : Option Formula}
    (structured : condition.isStructured = true)
    (compiled : compile mapping condition = .ok part) :
    (∀ formula ∈ part, formula.Holds meaning) ↔ condition.Holds mapping meaning := by
  induction condition generalizing part with
  | equals field value =>
    cases compiles_of_compile structured compiled with
    | equals constant =>
      simp [Formula.Holds, Holds, meets_iff_of_ofValue constant]
  | range field lower upper =>
    cases compiles_of_compile structured compiled with
    | range least bound =>
      simp [Formula.Holds, Holds, meets_iff_of_ofValue least, meets_iff_of_ofValue bound]
  | oneOf field values =>
    cases compiles_of_compile structured compiled with
    | @oneOf _ _ literals _ constants =>
      have values := exists_iff_of_forall₂ (p := meaning.Meets mapping field .eq)
        (q := meaning (mapping.resolve field) .eq) constants
        fun value _ literal constant => meets_iff_of_ofValue constant field .eq
      simp [Formula.Holds, Holds, values]
  | raw formula => cases structured
  | and children ih =>
    have childStructured := allStructured_iff.1 structured
    cases compiles_of_compile structured compiled with
    | and all =>
      have childHolds : ∀ c ∈ children, ∀ part, compile mapping c = .ok part →
          (c.Holds mapping meaning ↔ ∀ formula ∈ part, formula.Holds meaning) := by
        intro c member part compiledChild
        exact (ih c member (childStructured c member) compiledChild).symm
      have each := forall_iff_of_forall₂ (p := fun c => c.Holds mapping meaning)
        (q := fun part => ∀ formula ∈ part, formula.Holds meaning) all childHolds
      rw [holds_conjunction, Holds, each]
      simp only [List.mem_flatMap, Option.mem_toList]
      constructor
      · intro parts part member formula here
        exact parts formula ⟨part, member, here⟩
      · rintro every formula ⟨part, member, here⟩
        exact every part member formula here

/-! ## Filter texts -/

/-- Conditions whose text stays within the grammar: nothing is given in the store's words, and no
column has a closing brace in its name. -/
structure InGrammar (mapping : FieldMapping) (conditions : List Condition) : Prop where
  structured : ∀ c ∈ conditions, c.isStructured = true
  braceless : ∀ c ∈ conditions, ∀ field ∈ c.fields, '\x7d' ∉ (mapping.resolve field).toList

/-- A filter text is that of the conjunction of its conditions. -/
theorem compile_and_of_filterText {conditions : List Condition} {text : String}
    (compiled : Formula.filterText mapping conditions = .ok (some text)) :
    ∃ formula, compile mapping (.and conditions) = .ok (some formula) ∧ formula.render = text := by
  obtain ⟨joined, built, written⟩ := map_eq_ok.1 compiled
  obtain ⟨parts, all, rfl⟩ := map_eq_ok.1 built
  obtain ⟨formula, there, rendered⟩ := Option.map_eq_some_iff.1 written
  exact ⟨formula, by rw [compile, all, ← there]; rfl, rendered⟩

/-- What a list of conditions is compiled into is what the list denotes. -/
theorem denoted?_of_compile {conditions : List Condition} {formula : Formula}
    (structured : ∀ c ∈ conditions, c.isStructured = true)
    (built : compile mapping (.and conditions) = .ok (some formula)) :
    denoted? mapping conditions = some formula := by
  have joined : (Condition.and conditions).isStructured = true := allStructured_iff.2 structured
  obtain ⟨tree, there, pruned⟩ := exists_tree_of_compile joined built
  obtain ⟨trees, each, rfl⟩ := Option.map_eq_some_iff.1 there
  rw [denoted?, each]
  exact pruned

theorem exists_reading {conditions : List Condition} {text : String}
    (grammar : InGrammar mapping conditions)
    (compiled : Formula.filterText mapping conditions = .ok (some text)) :
    ∃ tree, Formula.read? text = some tree ∧ denoted? mapping conditions = some tree ∧
      ∀ meaning, tree.Holds meaning ↔ ∀ c ∈ conditions, c.Holds mapping meaning := by
  obtain ⟨formula, built, rfl⟩ := compile_and_of_filterText compiled
  have structured : (Condition.and conditions).isStructured = true :=
    allStructured_iff.2 grammar.structured
  have braceless : ∀ field ∈ (Condition.and conditions).fields,
      '\x7d' ∉ (mapping.resolve field).toList := by
    intro field named
    obtain ⟨c, member, named⟩ := mem_allFields.1 named
    exact grammar.braceless c member field named
  refine ⟨formula, Formula.read?_render (isLegible_of_compile structured braceless built),
    denoted?_of_compile grammar.structured built, ?_⟩
  intro meaning
  have truth := holds_iff_of_compile meaning structured built
  rw [Holds] at truth
  rw [← truth]
  simp

end Condition

/-- The filter text of conditions within the grammar is read back as the formula that they denote,
which is true exactly when all of them are. So no other conditions have this text unless they
denote the same formula. -/
theorem Formula.read?_filterText {mapping : FieldMapping} {conditions : List Condition}
    {text : String} (grammar : Condition.InGrammar mapping conditions)
    (compiled : Formula.filterText mapping conditions = .ok (some text)) :
    ∃ tree, Formula.read? text = some tree ∧
      Condition.denoted? mapping conditions = some tree ∧
      (∀ meaning, tree.Holds meaning ↔ ∀ c ∈ conditions, c.Holds mapping meaning) ∧
      ∀ (otherMapping : FieldMapping) (others : List Condition),
        Condition.InGrammar otherMapping others →
        Formula.filterText otherMapping others = .ok (some text) →
        Condition.denoted? otherMapping others = some tree := by
  obtain ⟨tree, read, denoted, truth⟩ := Condition.exists_reading grammar compiled
  refine ⟨tree, read, denoted, truth, fun otherMapping others otherGrammar same => ?_⟩
  obtain ⟨other, readOther, denotedOther, _⟩ := Condition.exists_reading otherGrammar same
  rw [read] at readOther
  cases readOther
  exact denotedOther

/-- Attributes are read back as their columns, quotes, names of functions and columns inside a text
stay text, and a conjunction of nothing leaves nothing behind. -/
theorem Formula.read?_filterText_of_nested :
    let mapping := FieldMapping.ofList
      [⟨"age", "Age", false, .other⟩, ⟨"role", "User Role", false, .other⟩]
    let conditions : List Condition :=
      [.and [.and [], .range "age" (.int (-18)) (.float (.ofBits 0x3FB999999999999A))],
        .oneOf "role" [.text "it's \x7bAge\x7d = 'AND(", .null], .and []]
    let text := "AND(AND(\x7bAge\x7d >= -18, \x7bAge\x7d < 0.1), " ++
      "OR(\x7bUser Role\x7d = 'it\\'s \x7bAge\x7d = \\'AND(', \x7bUser Role\x7d = BLANK()))"
    Condition.InGrammar mapping conditions ∧
      Formula.filterText mapping conditions = .ok (some text) ∧
      ∃ tree, Formula.read? text = some tree ∧
        Condition.denoted? mapping conditions = some tree := by
  intro mapping conditions text
  have grammar : Condition.InGrammar mapping conditions := ⟨by decide +kernel, by decide +kernel⟩
  have compiled : Formula.filterText mapping conditions = .ok (some text) := by decide +kernel
  obtain ⟨tree, read, denoted, _⟩ := Formula.read?_filterText grammar compiled
  exact ⟨grammar, compiled, tree, read, denoted⟩

end TableQuery
