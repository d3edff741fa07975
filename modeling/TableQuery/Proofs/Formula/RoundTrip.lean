import TableQuery.Proofs.Formula.Reader

/-!
# Written formulas are read back

`Formula.IsLegible` describes the formulas whose text has a single reading: no column has a closing
brace in its name, number literals are numbers, every conjunction and disjunction has a part, and
nothing is given in the store's own words. `read?_render` reads such a formula back from its text.
It rests on `readFormula?_render`, which leaves open what stands behind the formula.
-/

namespace TableQuery.Formula

/-- The text of the formula can be read in one way only. -/
inductive IsLegible : Formula → Prop
  | compare {column : String} {comparison : Comparison} {literal : Literal}
    (braceless : '\x7d' ∉ column.toList) (legible : literal.IsLegible) :
    IsLegible (.compare column comparison literal)
  | all {parts : List Formula} (nonempty : parts ≠ []) (legible : ∀ part ∈ parts, IsLegible part) :
    IsLegible (.all parts)
  | any {parts : List Formula} (nonempty : parts ≠ []) (legible : ∀ part ∈ parts, IsLegible part) :
    IsLegible (.any parts)

/-! ## Comparisons -/

/-- The name of a column ends at its brace. -/
theorem readName?_append {name : List Char} (braceless : '\x7d' ∉ name) (rest : List Char) :
    readName? (name ++ '\x7d' :: rest) = some (name, rest) := by
  induction name with
  | nil => rfl
  | cons c name ih =>
    rw [List.mem_cons, not_or] at braceless
    have noBrace : c ≠ '\x7d' := fun same => braceless.1 same.symm
    rw [List.cons_append, readName?.eq_3 _ _ noBrace, ih braceless.2]
    rfl

theorem readComparison?_symbol (comparison : Comparison) (rest : List Char) :
    readComparison? (comparison.symbol.toList ++ ' ' :: rest) = some (comparison, ' ' :: rest) := by
  cases comparison <;> rfl

theorem toList_render_compare (column : String) (comparison : Comparison) (literal : Literal) :
    (render (.compare column comparison literal)).toList =
      '\x7b' :: (column.toList ++ '\x7d' :: ' ' ::
        (comparison.symbol.toList ++ ' ' :: literal.render.toList)) := by
  simp [render, columnRef]

theorem readCompare?_append {column : String} {literal : Literal} {rest : List Char}
    (comparison : Comparison) (braceless : '\x7d' ∉ column.toList) (legible : literal.IsLegible)
    (ends : EndsNumber rest) :
    readCompare? (column.toList ++ '\x7d' :: ' ' ::
        (comparison.symbol.toList ++ ' ' :: (literal.render.toList ++ rest))) =
      some (.compare column comparison literal, rest) := by
  simp [readCompare?, readName?_append braceless, readSpace?, readComparison?_symbol,
    readLiteral?_render legible ends]

/-! ## Parts -/

/-- The parts of a formula as they stand up to the closing parenthesis. -/
def writtenParts (parts : List Formula) : List Char :=
  (", ".intercalate (renderParts parts)).toList ++ [')']

theorem writtenParts_singleton (part : Formula) :
    writtenParts [part] = part.render.toList ++ [')'] := by
  simp [writtenParts, renderParts, String.intercalate_singleton]

theorem writtenParts_cons_cons (part next : Formula) (parts : List Formula) :
    writtenParts (part :: next :: parts) =
      part.render.toList ++ ',' :: ' ' :: writtenParts (next :: parts) := by
  simp only [writtenParts, renderParts, String.intercalate_cons_cons]
  simp

theorem toList_render_all (parts : List Formula) :
    (render (.all parts)).toList = 'A' :: 'N' :: 'D' :: '(' :: writtenParts parts := by
  simp [render, call, writtenParts]

theorem toList_render_any (parts : List Formula) :
    (render (.any parts)).toList = 'O' :: 'R' :: '(' :: writtenParts parts := by
  simp [render, call, writtenParts]

/-- A formula is read back with this much fuel, whatever stands behind it. -/
def ReadsBack (formula : Formula) : Prop :=
  ∀ fuel rest, formula.render.toList.length ≤ fuel → EndsNumber rest →
    readFormula? fuel (formula.render.toList ++ rest) = some (formula, rest)

/-- Parts that are read back one by one are read back together. -/
theorem readParts?_writtenParts {parts : List Formula} (nonempty : parts ≠ [])
    (each : ∀ part ∈ parts, ReadsBack part) {fuel : Nat}
    (enough : (writtenParts parts).length ≤ fuel) (rest : List Char) :
    readParts? fuel (writtenParts parts ++ rest) = some (parts, rest) := by
  induction parts generalizing fuel with
  | nil => exact (nonempty rfl).elim
  | cons part parts ih =>
    have read := each part List.mem_cons_self
    cases parts with
    | nil =>
      rw [writtenParts_singleton, List.length_append, List.length_singleton] at enough
      obtain ⟨fuel, rfl⟩ : ∃ n, fuel = n + 1 := ⟨fuel - 1, by omega⟩
      have close : EndsNumber (')' :: rest) := endsNumber_cons rfl (by decide)
      rw [writtenParts_singleton, List.append_assoc, List.singleton_append, readParts?,
        read fuel (')' :: rest) (by omega) close]
      rfl
    | cons next parts =>
      rw [writtenParts_cons_cons, List.length_append, List.length_cons, List.length_cons] at enough
      obtain ⟨fuel, rfl⟩ : ∃ n, fuel = n + 1 := ⟨fuel - 1, by omega⟩
      have behind : (writtenParts (next :: parts)).length ≤ fuel := by omega
      have others := ih (List.cons_ne_nil _ _)
        (fun p member => each p (List.mem_cons_of_mem _ member)) behind
      have comma : EndsNumber (',' :: ' ' :: (writtenParts (next :: parts) ++ rest)) :=
        endsNumber_cons rfl (by decide)
      rw [writtenParts_cons_cons, List.append_assoc, List.cons_append, List.cons_append, readParts?,
        read fuel _ (by omega) comma]
      simp [others]

/-! ## Whole formulas -/

theorem readFormula?_render {formula : Formula} (legible : formula.IsLegible) :
    ReadsBack formula := by
  -- Every constructor writes at least one character, so one unit of fuel is always there.
  induction legible with
  | @compare column comparison literal braceless legible =>
    intro fuel rest enough ends
    rw [toList_render_compare, List.length_cons] at enough
    obtain ⟨fuel, rfl⟩ : ∃ n, fuel = n + 1 := ⟨fuel - 1, by omega⟩
    have read := readCompare?_append comparison braceless legible ends
    rw [toList_render_compare]
    simpa [readFormula?] using read
  | @all parts nonempty _ ih =>
    intro fuel rest enough _
    rw [toList_render_all] at enough
    simp only [List.length_cons] at enough
    obtain ⟨fuel, rfl⟩ : ∃ n, fuel = n + 1 := ⟨fuel - 1, by omega⟩
    have behind : (writtenParts parts).length ≤ fuel := by omega
    have read := readParts?_writtenParts nonempty ih behind rest
    rw [toList_render_all]
    simp [readFormula?, read]
  | @any parts nonempty _ ih =>
    intro fuel rest enough _
    rw [toList_render_any] at enough
    simp only [List.length_cons] at enough
    obtain ⟨fuel, rfl⟩ : ∃ n, fuel = n + 1 := ⟨fuel - 1, by omega⟩
    have behind : (writtenParts parts).length ≤ fuel := by omega
    have read := readParts?_writtenParts nonempty ih behind rest
    rw [toList_render_any]
    simp [readFormula?, read]

/-- A legible formula is what its text is read as. -/
theorem read?_render {formula : Formula} (legible : formula.IsLegible) :
    read? formula.render = some formula := by
  have read := readFormula?_render legible _ [] (Nat.le_refl _) endsNumber_nil
  rw [List.append_nil] at read
  rw [read?, read]

end TableQuery.Formula
