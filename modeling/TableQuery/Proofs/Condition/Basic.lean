import TableQuery.Proofs.Outcome
import TableQuery.Formula.Compile

/-!
# The structure of conditions

`Condition.induction` proves a statement about conditions from its children to a conjunction.
`isStructured` tells the conditions without a formula in the store's words, and `fields` lists the
attributes that a condition names. `compileAll_eq_mapM` says that several conditions are compiled one
by one.
-/

namespace TableQuery.Condition

/-- Induction over conditions, with the statement for every child of a conjunction. -/
@[elab_as_elim, induction_eliminator]
theorem induction {motive : Condition → Prop}
    (equals : ∀ field value, motive (.equals field value))
    (range : ∀ field lower upper, motive (.range field lower upper))
    (oneOf : ∀ field values, motive (.oneOf field values))
    (raw : ∀ formula, motive (.raw formula))
    (and : ∀ children, (∀ child ∈ children, motive child) → motive (.and children))
    (condition : Condition) : motive condition := by
  refine @Condition.rec motive (fun children => ∀ child ∈ children, motive child)
    equals range oneOf raw and ?nil ?cons condition
  case nil =>
    intro child member
    cases member
  case cons =>
    intro first rest here there child member
    rcases List.mem_cons.1 member with rfl | later
    · exact here
    · exact there child later

mutual

/-- No formula in the store's words occurs in the condition. -/
def isStructured : Condition → Bool
  | .raw _ => false
  | .and children => allStructured children
  | _ => true

def allStructured : List Condition → Bool
  | [] => true
  | child :: rest => isStructured child && allStructured rest

end

theorem allStructured_iff {conditions : List Condition} :
    allStructured conditions = true ↔ ∀ c ∈ conditions, c.isStructured = true := by
  induction conditions with
  | nil => simp [allStructured]
  | cons c rest ih => simp [allStructured, ih]

theorem allTrivial_iff {conditions : List Condition} :
    allTrivial conditions = true ↔ ∀ c ∈ conditions, c.isTrivial = true := by
  induction conditions with
  | nil => simp [allTrivial]
  | cons c rest ih => simp [allTrivial, ih]

mutual

/-- The attributes that the condition names, from left to right. -/
def fields : Condition → List String
  | .equals field _ => [field]
  | .range field _ _ => [field]
  | .oneOf field _ => [field]
  | .raw _ => []
  | .and children => allFields children

def allFields : List Condition → List String
  | [] => []
  | child :: rest => fields child ++ allFields rest

end

theorem mem_allFields {conditions : List Condition} {field : String} :
    field ∈ allFields conditions ↔ ∃ c ∈ conditions, field ∈ c.fields := by
  induction conditions with
  | nil => simp [allFields]
  | cons c rest ih => simp [allFields, ih]

/-! ## Compilation one by one -/

/-- The formulas of several conditions are those of each one that has a formula; the first condition
that does not compile decides the error. -/
theorem compileAll_eq_mapM (mapping : FieldMapping) (conditions : List Condition) :
    compileAll mapping conditions =
      (conditions.mapM (compile mapping)).map (List.flatMap Option.toList) := by
  induction conditions with
  | nil => rfl
  | cons c rest ih =>
    rw [compileAll, ih, List.mapM_cons]
    rcases compile mapping c with e | part
    · rfl
    · cases rest.mapM (compile mapping) <;> rfl

theorem compileAll_eq_ok {mapping : FieldMapping} {conditions : List Condition}
    {parts : List Formula} :
    compileAll mapping conditions = .ok parts ↔
      ∃ each, List.Forall₂ (fun c part => compile mapping c = .ok part) conditions each ∧
        parts = each.flatMap Option.toList := by
  rw [compileAll_eq_mapM, map_eq_ok]
  simp only [mapM_eq_ok, eq_comm (a := parts)]

end TableQuery.Condition
