import TableQuery.Formula.Compile

/-!
# Reading formulas

A reader of the store's formula grammar, over the characters that are left. A formula is a
conjunction `AND(f, ...)`, a disjunction `OR(f, ...)`, or a comparison of a column between braces
with a literal. The name of a column ends at the first closing brace. A text literal ends at the
first single quote that no backslash stands before; the other literals are `BLANK()`, `TRUE()`,
`FALSE()` and numbers, which are kept as their text.

`Formula.read?` reads a whole text. The lemmas here say that each kind of literal and each column is
read back from where it is written, whatever stands behind it.
-/

namespace TableQuery.Formula

/-! ## Literals -/

/-- A text behind its opening quote: a backslash takes the next character as it is. -/
def readQuoted? : List Char → Option (List Char × List Char)
  | [] => none
  | '\'' :: rest => some ([], rest)
  | '\\' :: c :: rest => (readQuoted? rest).map fun (text, rest) => (c :: text, rest)
  | ['\\'] => none
  | c :: rest => (readQuoted? rest).map fun (text, rest) => (c :: text, rest)

/-- The digits of a decimal number without a sign, with or without a point between them. -/
def readDecimal? (cs : List Char) : Option (List Char × List Char) :=
  match cs.takeWhile Char.isDigit, cs.dropWhile Char.isDigit with
  | [], _ => none
  | whole, '.' :: rest =>
    match rest.takeWhile Char.isDigit, rest.dropWhile Char.isDigit with
    | [], _ => none
    | fraction, rest => some (whole ++ '.' :: fraction, rest)
  | whole, rest => some (whole, rest)

/-- A number, as its text. -/
def readNumber? : List Char → Option (List Char × List Char)
  | '-' :: rest => (readDecimal? rest).map fun (digits, rest) => ('-' :: digits, rest)
  | cs => readDecimal? cs

def readLiteral? : List Char → Option (Literal × List Char)
  | 'B' :: 'L' :: 'A' :: 'N' :: 'K' :: '(' :: ')' :: rest => some (.blank, rest)
  | 'T' :: 'R' :: 'U' :: 'E' :: '(' :: ')' :: rest => some (.bool true, rest)
  | 'F' :: 'A' :: 'L' :: 'S' :: 'E' :: '(' :: ')' :: rest => some (.bool false, rest)
  | '\'' :: rest => (readQuoted? rest).map fun (text, rest) => (.text (String.ofList text), rest)
  | cs => (readNumber? cs).map fun (digits, rest) => (.number (String.ofList digits), rest)

/-! ## Formulas -/

/-- The name of a column behind its opening brace. -/
def readName? : List Char → Option (List Char × List Char)
  | [] => none
  | '\x7d' :: rest => some ([], rest)
  | c :: rest => (readName? rest).map fun (name, rest) => (c :: name, rest)

def readComparison? : List Char → Option (Comparison × List Char)
  | '=' :: rest => some (.eq, rest)
  | '>' :: '=' :: rest => some (.ge, rest)
  | '<' :: rest => some (.lt, rest)
  | _ => none

/-- The text goes on with a space. -/
def readSpace? : List Char → Option (List Char)
  | ' ' :: rest => some rest
  | _ => none

/-- A comparison behind the opening brace of its column. -/
def readCompare? (cs : List Char) : Option (Formula × List Char) := do
  let (column, rest) ← readName? cs
  let (comparison, rest) ← readComparison? (← readSpace? rest)
  let (literal, rest) ← readLiteral? (← readSpace? rest)
  some (.compare (String.ofList column) comparison literal, rest)

mutual

/-- A formula; the fuel bounds the number of nested calls. -/
def readFormula? : Nat → List Char → Option (Formula × List Char)
  | 0, _ => none
  | fuel + 1, cs => match cs with
    | 'A' :: 'N' :: 'D' :: '(' :: rest =>
      (readParts? fuel rest).map fun (parts, rest) => (.all parts, rest)
    | 'O' :: 'R' :: '(' :: rest =>
      (readParts? fuel rest).map fun (parts, rest) => (.any parts, rest)
    | '\x7b' :: rest => readCompare? rest
    | _ => none

/-- The parts of a conjunction or a disjunction up to its closing parenthesis, at least one. -/
def readParts? : Nat → List Char → Option (List Formula × List Char)
  | 0, _ => none
  | fuel + 1, cs => do
    let (part, rest) ← readFormula? fuel cs
    match rest with
    | ')' :: rest => some ([part], rest)
    | ',' :: ' ' :: rest => do
      let (parts, rest) ← readParts? fuel rest
      some (part :: parts, rest)
    | _ => none

end

/-- The formula that makes up the whole text. Every nested call takes at least one character, so
the fuel is enough for every text. -/
def read? (text : String) : Option Formula :=
  match readFormula? text.toList.length text.toList with
  | some (formula, []) => some formula
  | _ => none

/-! ## Quoted texts are read back -/

theorem readQuoted?_cons_of_ne {c : Char} (noQuote : c ≠ '\'') (noBackslash : c ≠ '\\')
    (rest : List Char) :
    readQuoted? (c :: rest) = (readQuoted? rest).map fun (text, rest) => (c :: text, rest) :=
  readQuoted?.eq_5 c rest noQuote (fun _ _ same _ => noBackslash same)
    fun same _ => noBackslash same

theorem readQuoted?_escape (text rest : List Char) :
    readQuoted? (escape text ++ '\'' :: rest) = some (text, rest) := by
  induction text with
  | nil => rfl
  | cons c text ih =>
    rw [escape]
    split
    · rw [List.cons_append, List.cons_append, readQuoted?, ih]
      rfl
    · rename_i plain
      have noQuote : c ≠ '\'' := by
        rintro rfl
        exact plain rfl
      have noBackslash : c ≠ '\\' := by
        rintro rfl
        exact plain rfl
      rw [List.cons_append, readQuoted?_cons_of_ne noQuote noBackslash, ih]
      rfl

/-! ## Numbers are read back -/

/-- Nothing that could still belong to a number in front of it. -/
def EndsNumber (rest : List Char) : Prop := ∀ c ∈ rest.head?, c.isDigit = false ∧ c ≠ '.'

theorem endsNumber_nil : EndsNumber [] := by
  intro c member
  cases member

theorem endsNumber_cons {c : Char} {rest : List Char} (digit : c.isDigit = false)
    (point : c ≠ '.') : EndsNumber (c :: rest) := by
  intro d member
  cases member
  exact ⟨digit, point⟩

/-- A decimal number without a sign: digits, with a point between two of them or without one. -/
inductive IsDecimal : List Char → Prop
  | whole {digits : List Char} (some : digits ≠ []) (all : ∀ c ∈ digits, c.isDigit) :
    IsDecimal digits
  | pointed {whole fraction : List Char} (someWhole : whole ≠ [])
    (allWhole : ∀ c ∈ whole, c.isDigit) (someFraction : fraction ≠ [])
    (allFraction : ∀ c ∈ fraction, c.isDigit) : IsDecimal (whole ++ '.' :: fraction)

/-- A decimal number, negative ones behind a minus sign. -/
def IsNumber (text : List Char) : Prop :=
  IsDecimal text ∨ ∃ digits, IsDecimal digits ∧ text = '-' :: digits

theorem takeWhile_digits {digits rest : List Char} (all : ∀ c ∈ digits, c.isDigit)
    (stop : ∀ c ∈ rest.head?, c.isDigit = false) :
    (digits ++ rest).takeWhile Char.isDigit = digits ∧
      (digits ++ rest).dropWhile Char.isDigit = rest := by
  rw [List.takeWhile_append_of_pos all, List.dropWhile_append_of_pos all]
  cases rest with
  | nil => simp
  | cons c rest => simp [stop c rfl]

theorem readDecimal?_append {text rest : List Char} (decimal : IsDecimal text)
    (ends : EndsNumber rest) : readDecimal? (text ++ rest) = some (text, rest) := by
  have stop : ∀ c ∈ rest.head?, c.isDigit = false := fun c member => (ends c member).1
  cases decimal with
  | @whole digits nonempty all =>
    obtain ⟨taken, left⟩ := takeWhile_digits all stop
    rw [readDecimal?, taken, left]
    split
    · exact (nonempty rfl).elim
    · exact ((ends '.' rfl).2 rfl).elim
    · rfl
  | @pointed whole fraction someWhole allWhole someFraction allFraction =>
    have point : ∀ c ∈ ('.' :: (fraction ++ rest)).head?, c.isDigit = false := by
      intro c member
      cases member
      rfl
    obtain ⟨taken, left⟩ := takeWhile_digits allWhole point
    obtain ⟨takenFraction, leftFraction⟩ := takeWhile_digits allFraction stop
    rw [List.append_assoc, List.cons_append, readDecimal?, taken, left]
    split
    · exact (someWhole rfl).elim
    · rename_i behind _ same
      cases same
      rw [takenFraction, leftFraction]
      split
      · exact (someFraction rfl).elim
      · rfl
    · rename_i other
      exact (other _ rfl).elim

theorem IsDecimal.exists_cons {digits : List Char} (decimal : IsDecimal digits) :
    ∃ c rest, digits = c :: rest ∧ c.isDigit := by
  cases decimal with
  | whole nonempty all =>
    obtain ⟨c, rest, rfl⟩ := List.exists_cons_of_ne_nil nonempty
    exact ⟨c, rest, rfl, all c List.mem_cons_self⟩
  | pointed someWhole allWhole _ _ =>
    obtain ⟨c, rest, rfl⟩ := List.exists_cons_of_ne_nil someWhole
    exact ⟨c, _, rfl, allWhole c List.mem_cons_self⟩

/-- The first character of a number tells it from every other literal. -/
theorem IsNumber.exists_cons {text : List Char} (number : IsNumber text) :
    ∃ c rest, text = c :: rest ∧ (c.isDigit ∨ c = '-') := by
  rcases number with decimal | ⟨digits, _, rfl⟩
  · obtain ⟨c, rest, same, digit⟩ := decimal.exists_cons
    exact ⟨c, rest, same, Or.inl digit⟩
  · exact ⟨'-', digits, rfl, Or.inr rfl⟩

theorem readNumber?_append {text rest : List Char} (number : IsNumber text)
    (ends : EndsNumber rest) : readNumber? (text ++ rest) = some (text, rest) := by
  rcases number with decimal | ⟨digits, decimal, rfl⟩
  · obtain ⟨c, behind, rfl, digit⟩ := decimal.exists_cons
    have noMinus : c ≠ '-' := by
      rintro rfl
      cases digit
    have read := readDecimal?_append decimal ends
    rw [List.cons_append] at read ⊢
    rw [readNumber?.eq_2 _ (fun _ same => noMinus (List.cons.inj same).1), read]
  · rw [List.cons_append, readNumber?, readDecimal?_append decimal ends]
    rfl

/-! ## Literals are read back -/

/-- A literal that can be read: a number is one by its text. -/
def Literal.IsLegible : Literal → Prop
  | .number digits => IsNumber digits.toList
  | _ => True

theorem readLiteral?_number {text rest : List Char} (number : IsNumber text)
    (ends : EndsNumber rest) :
    readLiteral? (text ++ rest) = some (.number (String.ofList text), rest) := by
  have read := readNumber?_append number ends
  obtain ⟨c, behind, rfl, first⟩ := number.exists_cons
  have no (d : Char) (other : d.isDigit = false) (minus : d ≠ '-') : c ≠ d := by
    rintro rfl
    rcases first with digit | same
    · rw [other] at digit
      cases digit
    · exact minus same
  unfold readLiteral?
  split
  · rename_i same
    exact (no 'B' rfl (by decide) (List.cons.inj same).1).elim
  · rename_i same
    exact (no 'T' rfl (by decide) (List.cons.inj same).1).elim
  · rename_i same
    exact (no 'F' rfl (by decide) (List.cons.inj same).1).elim
  · rename_i same
    exact (no '\'' rfl (by decide) (List.cons.inj same).1).elim
  · rw [read]
    rfl

theorem readLiteral?_render {literal : Literal} {rest : List Char} (legible : literal.IsLegible)
    (ends : EndsNumber rest) :
    readLiteral? (literal.render.toList ++ rest) = some (literal, rest) := by
  cases literal with
  | blank => rfl
  | bool b => cases b <;> rfl
  | number digits =>
    have read := readLiteral?_number legible ends
    rwa [String.ofList_toList] at read
  | text s =>
    have quoted : (Literal.text s).render.toList = '\'' :: (escape s.toList ++ ['\'']) := by
      simp [Literal.render, escapeText]
    rw [quoted, List.cons_append, List.append_assoc, List.singleton_append, readLiteral?,
      readQuoted?_escape]
    simp

end TableQuery.Formula
