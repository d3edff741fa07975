import TableQuery.Proofs.Formula.Denotation

/-!
# Columns and closing braces

A reference writes the name of a column between braces as it is, so the first closing brace in a
name ends it for every reader, and no formula that is read has a column with a closing brace. A text
of conditions is read as what they denote exactly when none of their columns has one:
`legible_iff_braceless`. A column that has one may stand for several columns and comparisons:
`reference_of_brace`.
-/

namespace TableQuery.Formula

/-! ## Names that are read -/

/-- A name that is read has no closing brace, whatever it was written for. -/
theorem braceless_of_readName? {cs name rest : List Char} (read : readName? cs = some (name, rest)) :
    '\x7d' ∉ name := by
  induction cs generalizing name with
  | nil => cases read
  | cons c cs ih =>
    by_cases brace : c = '\x7d'
    · rw [brace, readName?] at read
      cases read
      exact List.not_mem_nil
    · rw [readName?.eq_3 _ _ brace] at read
      obtain ⟨⟨others, left⟩, later, same⟩ := Option.map_eq_some_iff.1 read
      cases same
      rw [List.mem_cons, not_or]
      exact ⟨fun same => brace same.symm, ih later⟩

/-- The part of a name in front of its first closing brace is what a reader takes for it. -/
theorem readName?_reference (name : List Char) :
    ∃ rest, readName? (name ++ ['\x7d']) = some (name.takeWhile (· ≠ '\x7d'), rest) := by
  induction name with
  | nil => exact ⟨[], rfl⟩
  | cons c name ih =>
    by_cases brace : c = '\x7d'
    · exact ⟨name ++ ['\x7d'], by simp [brace, readName?]⟩
    · obtain ⟨rest, read⟩ := ih
      refine ⟨rest, ?_⟩
      rw [List.cons_append, readName?.eq_3 _ _ brace, read, List.takeWhile_cons_of_pos (by simpa)]
      rfl

theorem readName?_reference_iff (name : List Char) :
    readName? (name ++ ['\x7d']) = some (name, []) ↔ '\x7d' ∉ name := by
  constructor
  · exact braceless_of_readName?
  · intro braceless
    exact readName?_append braceless []

/-! ## Columns of formulas -/

/-- A comparison of the column stands somewhere in the formula. -/
inductive Names (column : String) : Formula → Prop
  | compare {comparison : Comparison} {literal : Literal} :
    Names column (.compare column comparison literal)
  | all {parts : List Formula} {part : Formula} (member : part ∈ parts) (named : Names column part) :
    Names column (.all parts)
  | any {parts : List Formula} {part : Formula} (member : part ∈ parts) (named : Names column part) :
    Names column (.any parts)

/-- No column of the formula has a closing brace. -/
def IsBraceless (formula : Formula) : Prop :=
  ∀ column, formula.Names column → '\x7d' ∉ column.toList

theorem isBraceless_all {parts : List Formula} (each : ∀ part ∈ parts, part.IsBraceless) :
    (Formula.all parts).IsBraceless := by
  intro column named
  cases named with
  | all member named => exact each _ member column named

theorem isBraceless_any {parts : List Formula} (each : ∀ part ∈ parts, part.IsBraceless) :
    (Formula.any parts).IsBraceless := by
  intro column named
  cases named with
  | any member named => exact each _ member column named

theorem isBraceless_of_readCompare? {cs rest : List Char} {formula : Formula}
    (read : readCompare? cs = some (formula, rest)) : formula.IsBraceless := by
  obtain ⟨⟨name, behind⟩, found, read⟩ := Option.bind_eq_some_iff.1 read
  obtain ⟨spaced, _, read⟩ := Option.bind_eq_some_iff.1 read
  obtain ⟨⟨comparison, compared⟩, _, read⟩ := Option.bind_eq_some_iff.1 read
  obtain ⟨second, _, read⟩ := Option.bind_eq_some_iff.1 read
  obtain ⟨⟨literal, left⟩, _, same⟩ := Option.bind_eq_some_iff.1 read
  cases same
  intro column named
  cases named
  rw [String.toList_ofList]
  exact braceless_of_readName? found

/-- Whatever is read, no column of it has a closing brace. -/
theorem isBraceless_of_read (fuel : Nat) :
    (∀ cs formula rest, readFormula? fuel cs = some (formula, rest) → formula.IsBraceless) ∧
    ∀ cs parts rest, readParts? fuel cs = some (parts, rest) →
      ∀ part ∈ parts, part.IsBraceless := by
  induction fuel with
  | zero =>
    refine ⟨fun cs formula rest read => ?_, fun cs parts rest read => ?_⟩
    · cases read
    · cases read
  | succ fuel ih =>
    obtain ⟨formulas, lists⟩ := ih
    constructor
    · intro cs formula rest read
      unfold readFormula? at read
      split at read
      · obtain ⟨⟨parts, behind⟩, found, same⟩ := Option.map_eq_some_iff.1 read
        cases same
        exact isBraceless_all (lists _ parts _ found)
      · obtain ⟨⟨parts, behind⟩, found, same⟩ := Option.map_eq_some_iff.1 read
        cases same
        exact isBraceless_any (lists _ parts _ found)
      · exact isBraceless_of_readCompare? read
      · cases read
    · intro cs parts rest read
      rw [readParts?] at read
      obtain ⟨⟨first, behind⟩, found, read⟩ := Option.bind_eq_some_iff.1 read
      have front := formulas _ first _ found
      dsimp only at read
      split at read
      · cases read
        exact List.forall_mem_singleton.2 front
      · obtain ⟨⟨others, left⟩, later, same⟩ := Option.bind_eq_some_iff.1 read
        cases same
        exact List.forall_mem_cons.2 ⟨front, lists _ others _ later⟩
      · cases read

theorem isBraceless_of_read? {text : String} {formula : Formula}
    (read : read? text = some formula) : formula.IsBraceless := by
  unfold read? at read
  split at read
  · rename_i found
    cases read
    exact (isBraceless_of_read _).1 _ _ _ found
  · cases read

theorem names_conjunction {column : String} {parts : List Formula} {part : Formula}
    (member : part ∈ parts) (named : part.Names column) :
    ∃ joined ∈ conjunction parts, joined.Names column := by
  rcases parts with _ | ⟨first, _ | ⟨next, rest⟩⟩
  · cases member
  · rw [List.mem_singleton] at member
    exact ⟨first, rfl, member ▸ named⟩
  · exact ⟨_, rfl, .all member named⟩

end TableQuery.Formula

namespace TableQuery.Condition

open Formula

variable {mapping : FieldMapping}

/-- The column of every attribute that a condition names stands in what it is compiled into. -/
theorem names_of_compile {condition : Condition} {part : Option Formula}
    (structured : condition.isStructured = true)
    (compiled : compile mapping condition = .ok part) :
    ∀ field ∈ condition.fields, ∃ formula ∈ part, formula.Names (mapping.resolve field) := by
  induction condition generalizing part with
  | equals name value =>
    intro field named
    cases List.mem_singleton.1 named
    cases compiles_of_compile structured compiled with
    | equals => exact ⟨_, rfl, .compare⟩
  | range name lower upper =>
    intro field named
    cases List.mem_singleton.1 named
    cases compiles_of_compile structured compiled with
    | range => exact ⟨_, rfl, .all List.mem_cons_self .compare⟩
  | oneOf name values =>
    intro field named
    cases List.mem_singleton.1 named
    cases compiles_of_compile structured compiled with
    | @oneOf _ _ literals nonempty constants =>
      cases constants with
      | nil => exact (nonempty rfl).elim
      | cons first others => exact ⟨_, rfl, .any List.mem_cons_self .compare⟩
  | raw formula => cases structured
  | and children ih =>
    intro field named
    obtain ⟨child, member, named⟩ := mem_allFields.1 named
    cases compiles_of_compile structured compiled with
    | and all =>
      obtain ⟨one, inside, compiledChild⟩ := exists_of_mem_right all.flip member
      obtain ⟨formula, here, stands⟩ :=
        ih child member (allStructured_iff.1 structured child member) compiledChild field named
      have part : formula ∈ List.flatMap Option.toList _ :=
        List.mem_flatMap.2 ⟨one, inside, Option.mem_toList.2 here⟩
      exact names_conjunction part stands

/-- Conditions whose text is read as what they denote have no column with a closing brace. -/
theorem inGrammar_of_read? {conditions : List Condition} {text : String}
    (structured : ∀ c ∈ conditions, c.isStructured = true)
    (compiled : filterText mapping conditions = .ok (some text))
    (read : Formula.read? text = denoted? mapping conditions) : InGrammar mapping conditions := by
  obtain ⟨formula, built, rfl⟩ := compile_and_of_filterText compiled
  rw [denoted?_of_compile structured built] at read
  have joined : (Condition.and conditions).isStructured = true := allStructured_iff.2 structured
  refine ⟨structured, fun c member field named => ?_⟩
  obtain ⟨_, here, stands⟩ := names_of_compile joined built field
    (mem_allFields.2 ⟨c, member, named⟩)
  cases here
  exact isBraceless_of_read? read _ stands

theorem read?_eq_denoted?_iff {conditions : List Condition} {text : String}
    (structured : ∀ c ∈ conditions, c.isStructured = true)
    (compiled : filterText mapping conditions = .ok (some text)) :
    Formula.read? text = denoted? mapping conditions ↔ InGrammar mapping conditions := by
  constructor
  · exact inGrammar_of_read? structured compiled
  · intro grammar
    obtain ⟨tree, read, denoted, _⟩ := exists_reading grammar compiled
    rw [read, denoted]

end TableQuery.Condition

namespace TableQuery.Formula

open Condition (InGrammar denoted?)

/-- A reference is read up to the first closing brace of its column, so it stands for the column
exactly when there is none. The text of conditions, none of them in the store's words, is read as
what they denote exactly when this is so for each of their columns; and of all the conditions with
the same text, just those without such a column denote the same. -/
theorem legible_iff_braceless (mapping : FieldMapping) :
    (∀ field written, reference mapping field = .ok written →
      ∃ behind, written.toList = '\x7b' :: behind ∧
        (∃ rest, readName? behind =
          some ((mapping.resolve field).toList.takeWhile (· ≠ '\x7d'), rest)) ∧
        (readName? behind = some ((mapping.resolve field).toList, []) ↔
          '\x7d' ∉ (mapping.resolve field).toList)) ∧
    ∀ conditions text, (∀ c ∈ conditions, c.isStructured = true) →
      filterText mapping conditions = .ok (some text) →
      (read? text = denoted? mapping conditions ↔ InGrammar mapping conditions) ∧
      ∀ otherMapping others, (∀ c ∈ others, c.isStructured = true) →
        filterText otherMapping others = .ok (some text) → InGrammar mapping conditions →
        (denoted? otherMapping others = denoted? mapping conditions ↔
          InGrammar otherMapping others) := by
  constructor
  · intro field written refers
    obtain ⟨column, found, rfl⟩ := map_eq_ok.1 refers
    rw [Condition.column_eq_of_ok found]
    refine ⟨(mapping.resolve field).toList ++ ['\x7d'], ?_, readName?_reference _,
      readName?_reference_iff _⟩
    simp [columnRef]
  · intro conditions text structured compiled
    have legible := Condition.read?_eq_denoted?_iff structured compiled
    refine ⟨legible, fun otherMapping others otherStructured same grammar => ?_⟩
    rw [← legible.2 grammar, ← Condition.read?_eq_denoted?_iff otherStructured same]
    exact eq_comm

/-- A column with a closing brace in its name is read as another one, and what stands behind the
brace is left over. In a list of conditions it stands for two other columns, and for one condition
more. -/
theorem reference_of_brace :
    (reference .empty "a\x7db" = .ok "\x7ba\x7db\x7d" ∧
      readName? "a\x7db\x7d".toList = some (['a'], ['b', '\x7d'])) ∧
    let injected : List Condition :=
      [.equals "x" (.int 0), .equals "a\x7d = 1, \x7bb" (.int 2)]
    let plain : List Condition := [.equals "x" (.int 0), .equals "a" (.int 1), .equals "b" (.int 2)]
    filterText .empty injected = filterText .empty plain ∧
      filterText .empty plain =
        .ok (some "AND(\x7bx\x7d = 0, \x7ba\x7d = 1, \x7bb\x7d = 2)") ∧
      denoted? .empty injected ≠ denoted? .empty plain := by
  refine ⟨⟨by decide +kernel, by decide +kernel⟩, by decide +kernel, by decide +kernel, ?_⟩
  intro same
  have parts : [_, _] = [_, _, _] := Formula.all.inj (Option.some.inj same)
  have lengths := congrArg List.length parts
  cases lengths

end TableQuery.Formula
