import TableQuery.Proofs.Condition.Basic
import TableQuery.Relation.Basic

/-!
# Attributes and columns of compiled queries

A compiled query speaks of columns only. A query in which every attribute has been replaced by its
column compiles without any mapping to the parameters that the query itself compiles to:
`Relation.compile_by_columns`. So no attribute is left over, no name is looked up twice, even if it
is that of a column and of an attribute, and nothing else about the mapping counts but where it
leads the attributes of the query.

The errors differ: they name attributes, and those of the renamed query are columns. So both
compilations are compared by their results alone, as options.
-/

namespace TableQuery

/-! ## Renaming -/

namespace Condition

mutual

/-- The condition with other names for its attributes. A formula in the store's words stays. -/
def rename (name : String → String) : Condition → Condition
  | .equals field value => .equals (name field) value
  | .range field lower upper => .range (name field) lower upper
  | .oneOf field values => .oneOf (name field) values
  | .raw formula => .raw formula
  | .and children => .and (renameAll name children)

def renameAll (name : String → String) : List Condition → List Condition
  | [] => []
  | child :: rest => rename name child :: renameAll name rest

end

end Condition

def OrderBy.rename (name : String → String) (key : OrderBy) : OrderBy :=
  { key with field := name key.field }

namespace Query

/-- The query with other names for the attributes of its conditions and its sort keys. -/
def rename (name : String → String) (query : Query) : Query :=
  { query with
    conditions := Condition.renameAll name query.conditions
    order := query.order.map (OrderBy.rename name) }

/-- The attributes that the query names. -/
def fields (query : Query) : List String :=
  Condition.allFields query.conditions ++ query.order.map OrderBy.field

end Query

/-! ## Compilation of renamed queries -/

variable {mapping other : FieldMapping} {field : String}

theorem FieldMapping.resolve_empty (name : String) : FieldMapping.empty.resolve name = name := by
  refine resolve_of_undefined ?_
  simp [get?, empty]

theorem column_renamed (named : field ≠ "") :
    (Formula.column .empty (mapping.resolve field)).toOption =
      (Formula.column mapping field).toOption := by
  simp only [Formula.column, FieldMapping.resolve_empty, String.isEmpty_iff, if_neg named]
  split <;> rfl

theorem column_congr (same : other.resolve field = mapping.resolve field) :
    Formula.column other field = Formula.column mapping field := by
  simp only [Formula.column, same]

/-- The name of the attribute only matters for errors. -/
theorem literal_renamed (field : String) (name : String) (value : Value) :
    (Formula.literal name value).toOption = (Formula.literal field value).toOption := by
  simp only [Formula.literal, toOption_mapError]

namespace Condition

theorem compileAll_renamed {conditions : List Condition}
    (each : ∀ c ∈ conditions, (compile .empty (c.rename mapping.resolve)).toOption =
      (compile mapping c).toOption) :
    (compileAll .empty (renameAll mapping.resolve conditions)).toOption =
      (compileAll mapping conditions).toOption := by
  induction conditions with
  | nil => rfl
  | cons c rest ih =>
    have later := ih fun other member => each other (List.mem_cons_of_mem _ member)
    simp only [renameAll, compileAll, toOption_bind, each c List.mem_cons_self, later]

theorem compileAll_congr {conditions : List Condition}
    (each : ∀ c ∈ conditions, compile other c = compile mapping c) :
    compileAll other conditions = compileAll mapping conditions := by
  rw [compileAll_eq_mapM, compileAll_eq_mapM, mapM_congr each]

theorem compile_renamed {condition : Condition} (named : ∀ field ∈ condition.fields, field ≠ "") :
    (compile .empty (condition.rename mapping.resolve)).toOption =
      (compile mapping condition).toOption := by
  induction condition with
  | equals field value =>
    simp only [rename, compile, toOption_bind, column_renamed (named field List.mem_cons_self),
      literal_renamed field]
  | range field lower upper =>
    simp only [rename, compile, toOption_bind, column_renamed (named field List.mem_cons_self),
      literal_renamed field]
  | oneOf field values =>
    simp only [rename, compile, toOption_bind, column_renamed (named field List.mem_cons_self)]
    refine congrArg _ (funext fun column => ?_)
    cases values.isEmpty with
    | true => rfl
    | false => simp only [Bool.false_eq_true, if_false, toOption_bind, toOption_mapM,
        literal_renamed field]
  | raw formula => rfl
  | and children ih =>
    have each := compileAll_renamed fun c member =>
      ih c member fun field inside => named field (mem_allFields.2 ⟨c, member, inside⟩)
    simp only [rename, compile, toOption_bind, each]

/-- Only the columns of the attributes that the condition names count. -/
theorem compile_congr {condition : Condition}
    (same : ∀ field ∈ condition.fields, other.resolve field = mapping.resolve field) :
    compile other condition = compile mapping condition := by
  induction condition with
  | equals field value | range field lower upper | oneOf field values =>
    simp only [compile, column_congr (same field List.mem_cons_self)]
  | raw formula => rfl
  | and children ih =>
    have each := compileAll_congr fun c member =>
      ih c member fun field inside => same field (mem_allFields.2 ⟨c, member, inside⟩)
    simp only [compile, each]

end Condition

theorem OrderBy.compile_renamed {key : OrderBy} (named : key.field ≠ "") :
    ((key.rename mapping.resolve).compile .empty).toOption = (key.compile mapping).toOption := by
  simp only [compile, rename, FieldMapping.resolve_empty, String.isEmpty_iff, if_neg named]
  split <;> rfl

theorem OrderBy.compile_congr {key : OrderBy}
    (same : other.resolve key.field = mapping.resolve key.field) :
    key.compile other = key.compile mapping := by
  simp only [compile, same]

namespace Query

theorem filterText_renamed {conditions : List Condition}
    (named : ∀ field ∈ Condition.allFields conditions, field ≠ "") :
    (Formula.filterText .empty (Condition.renameAll mapping.resolve conditions)).toOption =
      (Formula.filterText mapping conditions).toOption := by
  have each : (Condition.compileAll .empty
      (Condition.renameAll mapping.resolve conditions)).toOption =
        (Condition.compileAll mapping conditions).toOption :=
    Condition.compileAll_renamed fun c member => c.compile_renamed fun field inside =>
      named field (Condition.mem_allFields.2 ⟨c, member, inside⟩)
  simp only [Formula.filterText, Formula.ofConditions, toOption_map, each]

theorem compile_rename {query : Query} (named : ∀ field ∈ query.fields, field ≠ "") :
    ((query.rename mapping.resolve).compile .empty).toOption =
      (query.compile mapping).toOption := by
  have filter : (Formula.filterText .empty
      (Condition.renameAll mapping.resolve query.conditions)).toOption =
        (Formula.filterText mapping query.conditions).toOption :=
    filterText_renamed fun field inside => named field (List.mem_append_left _ inside)
  have sort : ((query.order.map (OrderBy.rename mapping.resolve)).mapM
      (OrderBy.compile .empty)).toOption =
        (query.order.mapM (OrderBy.compile mapping)).toOption := by
    rw [List.mapM_map, toOption_mapM, toOption_mapM]
    exact mapM_congr fun key member =>
      key.compile_renamed (named _ (List.mem_append_right _ (List.mem_map_of_mem member)))
  simp only [rename, compile, toOption_bind, filter, sort]

theorem compile_congr {query : Query}
    (same : ∀ field ∈ query.fields, other.resolve field = mapping.resolve field) :
    query.compile other = query.compile mapping := by
  have conditions := Condition.compileAll_congr fun c member =>
    c.compile_congr fun field inside =>
      same field (List.mem_append_left _ (Condition.mem_allFields.2 ⟨c, member, inside⟩))
  have sort : query.order.mapM (OrderBy.compile other) =
      query.order.mapM (OrderBy.compile mapping) :=
    mapM_congr fun key member =>
      key.compile_congr (same _ (List.mem_append_right _ (List.mem_map_of_mem member)))
  simp only [compile, Formula.filterText, Formula.ofConditions, conditions, sort]

end Query

namespace Relation

variable {α : Type} {model : Model α}

/-- A relation without empty names compiles exactly when it does so with its columns in the place of
its attributes and without a mapping, and to the same parameters. And whatever names it has, another
mapping that leads them to the same columns makes no difference. -/
theorem compile_by_columns (relation : Relation model) :
    ((∀ field ∈ relation.query.fields, field ≠ "") → ∀ params, relation.compile = .ok params ↔
      (ofQuery (relation.query.rename model.mapping.resolve) :
        Relation { model with mapping := .empty }).compile = .ok params) ∧
    ∀ mapping : FieldMapping,
      (∀ field ∈ relation.query.fields, mapping.resolve field = model.mapping.resolve field) →
        (ofQuery relation.query : Relation { model with mapping }).compile = relation.compile := by
  refine ⟨fun named params => ?_, fun mapping same => Query.compile_congr same⟩
  have both : ((relation.query.rename model.mapping.resolve).compile .empty).toOption =
      (relation.query.compile model.mapping).toOption := Query.compile_rename named
  rw [compile, compile, ← toOption_eq_some, ← toOption_eq_some]
  exact (both ▸ Iff.rfl)

/-- A column with the name of another attribute is not looked up again, and a formula in the store's
words is not looked into. -/
theorem compile_by_columns_of_chained :
    let mapping : FieldMapping :=
      .ofList [⟨"age", "role", false, .other⟩, ⟨"role", "Role", false, .other⟩]
    let model : Model Record := { table := "Users", mapping, ofRecord := .ok }
    let query : Query :=
      { conditions := [.and [.equals "age" (.int 7), .raw "\x7brole\x7d"], .oneOf "role" [.null]]
        order := [.desc "age"] }
    let params : FetchParams :=
      { filter := some "AND(AND(\x7brole\x7d = 7, \x7brole\x7d), OR(\x7bRole\x7d = BLANK()))"
        sort := [⟨"role", .desc⟩] }
    (∀ field ∈ query.fields, field ≠ "") ∧
      (ofQuery query : Relation model).compile = .ok params ∧
      (ofQuery (query.rename mapping.resolve) :
        Relation { model with mapping := .empty }).compile = .ok params := by
  intro mapping model query params
  have named : ∀ field ∈ query.fields, field ≠ "" := by decide
  have compiled : (ofQuery query : Relation model).compile = .ok params := by decide +kernel
  obtain ⟨renamed, _⟩ := compile_by_columns (ofQuery query : Relation model)
  exact ⟨named, compiled, (renamed named params).1 compiled⟩

end Relation

end TableQuery
