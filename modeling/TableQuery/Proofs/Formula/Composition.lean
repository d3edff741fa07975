import Mathlib.Logic.Relation
import TableQuery.Proofs.Condition.Trivial
import TableQuery.Proofs.Query.Fetching
import TableQuery.Relation.Basic

/-!
# Formulas are put together from those of single conditions

The text of several conditions is made of the texts that they have alone: nothing of none, the text
itself of one, and a call of `AND` with all of them otherwise; the first condition that fails alone
decides the error. So conditions can be tidied, at any depth, without a change to the text or to the
error, and two filters are joined with each of them kept whole: `Formula.filterText_of_parts`.

* `Condition.Tidies` is one step of tidying.
* `Formula.joined` is the text that texts are joined to.
-/

namespace TableQuery

/-! ## Conditions one by one -/

namespace Condition

variable {mapping : FieldMapping}

/-- A conjunction of one condition compiles as that condition does. -/
theorem compile_and_singleton (mapping : FieldMapping) (c : Condition) :
    compile mapping (.and [c]) = compile mapping c := by
  rw [compile, compileAll_eq_mapM, List.mapM_cons, List.mapM_nil]
  rcases compile mapping c with e | part
  · rfl
  · cases part <;> rfl

/-- One step of tidying: a trivial condition is dropped, or a conjunction of one condition is
replaced by this condition, in the list itself or inside one of its conjunctions. -/
inductive Tidies : List Condition → List Condition → Prop
  | drop {c : Condition} {rest : List Condition} (trivial : c.isTrivial = true) :
    Tidies (c :: rest) rest
  | unwrap {c : Condition} {rest : List Condition} : Tidies (.and [c] :: rest) (c :: rest)
  | inside {children tidied rest : List Condition} (step : Tidies children tidied) :
    Tidies (.and children :: rest) (.and tidied :: rest)
  | later {c : Condition} {rest tidied : List Condition} (step : Tidies rest tidied) :
    Tidies (c :: rest) (c :: tidied)

/-- Tidying changes neither the formulas nor the first fault. -/
theorem Tidies.compileAll_eq {conditions tidied : List Condition}
    (step : Tidies conditions tidied) :
    compileAll mapping tidied = compileAll mapping conditions := by
  induction step with
  | @drop c rest trivial =>
    have nothing : compile mapping c = .ok none := compile_eq_none_iff.2 trivial
    rw [compileAll.eq_2, nothing]
    cases compileAll mapping rest <;> rfl
  | unwrap => rw [compileAll, compileAll, compile_and_singleton]
  | inside _ ih => rw [compileAll, compileAll, compile, compile, ih]
  | later _ ih => rw [compileAll, compileAll, ih]

theorem compileAll_of_tidied {conditions tidied : List Condition}
    (steps : Relation.ReflTransGen Tidies conditions tidied) :
    compileAll mapping tidied = compileAll mapping conditions := by
  induction steps with
  | refl => rfl
  | tail _ step ih => rw [step.compileAll_eq, ih]

end Condition

/-! ## Texts one by one -/

namespace Formula

variable {mapping : FieldMapping}

/-- The text that texts are joined to: none of none, and the text itself of one. -/
def joined : List String → Option String
  | [] => none
  | [text] => some text
  | texts => some ("AND(" ++ ", ".intercalate texts ++ ")")

theorem renderParts_eq_map (parts : List Formula) : renderParts parts = parts.map render := by
  induction parts with
  | nil => rfl
  | cons part rest ih => rw [renderParts, ih, List.map_cons]

theorem render_conjunction (parts : List Formula) :
    (conjunction parts).map render = joined (parts.map render) := by
  rcases parts with _ | ⟨first, _ | ⟨second, rest⟩⟩
  · rfl
  · rfl
  · have opening : "AND" ++ "(" = "AND(" := rfl
    simp only [conjunction, Option.map_some, render, call, renderParts_eq_map, List.map_cons,
      joined, opening]

theorem filterText_singleton (mapping : FieldMapping) (c : Condition) :
    filterText mapping [c] = (Condition.compile mapping c).map (Option.map render) := by
  rw [filterText, ofConditions_eq_compile, Condition.compile_and_singleton]

theorem filterText_and (mapping : FieldMapping) (conditions : List Condition) :
    filterText mapping [.and conditions] = filterText mapping conditions := by
  rw [filterText_singleton, filterText, ofConditions_eq_compile]

/-- The text of conditions is joined from their texts alone, if each of them compiles. -/
theorem filterText_eq_mapM (mapping : FieldMapping) (conditions : List Condition) :
    filterText mapping conditions =
      (conditions.mapM fun c => filterText mapping [c]).map fun each =>
        joined (each.flatMap Option.toList) := by
  have alone : (conditions.mapM fun c => filterText mapping [c]) =
      (conditions.mapM (Condition.compile mapping)).map (List.map (Option.map render)) := by
    simp only [filterText_singleton, mapM_map]
  rw [alone, filterText, ofConditions, Condition.compileAll_eq_mapM]
  rcases conditions.mapM (Condition.compile mapping) with e | each
  · rfl
  · simp only [Except.map, render_conjunction, List.flatMap_map, List.map_flatMap,
      Option.toList_map]

theorem filterText_eq_error {conditions : List Condition} {e : Error} :
    filterText mapping conditions = .error e ↔
      ∃ before bad behind, conditions = before ++ bad :: behind ∧
        (∀ c ∈ before, ∃ text, filterText mapping [c] = .ok text) ∧
        filterText mapping [bad] = .error e := by
  rw [filterText_eq_mapM, ← errorOf?_eq_some, errorOf?_map, errorOf?_eq_some, mapM_eq_error]

theorem filterText_eq_ok {conditions : List Condition} {text : Option String} :
    filterText mapping conditions = .ok text ↔
      ∃ each, List.Forall₂ (fun c alone => filterText mapping [c] = .ok alone) conditions each ∧
        text = joined (each.flatMap Option.toList) := by
  rw [filterText_eq_mapM, map_eq_ok]
  simp only [mapM_eq_ok, eq_comm (a := text)]

theorem filterText_of_tidied {conditions tidied : List Condition}
    (steps : Relation.ReflTransGen Condition.Tidies conditions tidied) :
    filterText mapping tidied = filterText mapping conditions := by
  rw [filterText, filterText, ofConditions, ofConditions, Condition.compileAll_of_tidied steps]

/-- A condition that restricts something has a text if it compiles. -/
theorem exists_text_of_nontrivial {c : Condition} {text : Option String}
    (restricts : c.isTrivial = false) (compiles : filterText mapping [c] = .ok text) :
    ∃ written, text = some written := by
  refine Option.ne_none_iff_exists'.1 ?_
  intro nothing
  rw [nothing] at compiles
  have trivial := filterText_eq_none_iff.1 compiles c List.mem_cons_self
  rw [restricts] at trivial
  cases trivial

/-- Two conditions that restrict something are joined, each of them with its own text. -/
theorem filterText_pair {a b : Condition} {text : Option String} (first : a.isTrivial = false)
    (second : b.isTrivial = false) :
    filterText mapping [a, b] = .ok text ↔
      ∃ left right, filterText mapping [a] = .ok (some left) ∧
        filterText mapping [b] = .ok (some right) ∧
        text = some ("AND(" ++ left ++ ", " ++ right ++ ")") := by
  have pair (left right : String) : joined ([some left, some right].flatMap Option.toList) =
      some ("AND(" ++ left ++ ", " ++ right ++ ")") := by
    simp [joined, String.append_assoc]
  rw [filterText_eq_ok]
  constructor
  · intro parts
    obtain ⟨each, all, rfl⟩ := parts
    obtain ⟨one, rest, here, tail, rfl⟩ := List.forall₂_cons_left_iff.1 all
    obtain ⟨other, none, there, empty, rfl⟩ := List.forall₂_cons_left_iff.1 tail
    cases empty
    obtain ⟨left, rfl⟩ := exists_text_of_nontrivial first here
    obtain ⟨right, rfl⟩ := exists_text_of_nontrivial second there
    exact ⟨left, right, here, there, pair left right⟩
  · intro texts
    obtain ⟨left, right, here, there, rfl⟩ := texts
    exact ⟨[some left, some right], .cons here (.cons there .nil), (pair left right).symm⟩

end Formula

/-! ## Filters of relations -/

namespace Relation

open Formula (filterText)

variable {α : Type} {model : Model α} {relation : Relation model} {first second : Filter}
  {a b : Condition}

/-- Two filters of a relation without conditions are joined with each of them kept whole, the first
one in front; the rest of the parameters is as without filters. -/
theorem compile_filter_filter (unfiltered : relation.query.conditions = [])
    (one : first.condition? = some a) (other : second.condition? = some b) {params : FetchParams} :
    ((relation.filter first).filter second).compile = .ok params ↔
      ∃ left right plain, filterText model.mapping [a] = .ok (some left) ∧
        filterText model.mapping [b] = .ok (some right) ∧ relation.compile = .ok plain ∧
        params = { plain with filter := some ("AND(" ++ left ++ ", " ++ right ++ ")") } := by
  have both : ((relation.filter first).filter second).query =
      { relation.query with conditions := [a, b] } := by
    simp only [filter, ofQuery, Query.addFilter_of_some one, Query.addFilter_of_some other,
      unfiltered, List.nil_append, List.cons_append]
  have restrictsOne := Filter.isTrivial_of_condition? one
  have restrictsOther := Filter.isTrivial_of_condition? other
  rw [compile, compile, both, Query.compile_eq_ok, Formula.filterText_pair restrictsOne restrictsOther]
  simp only [Query.compile_eq_ok, unfiltered]
  constructor
  · intro compiled
    obtain ⟨⟨left, right, here, there, joined⟩, sorted, limit, offset⟩ := compiled
    refine ⟨left, right, { params with filter := none }, here, there,
      ⟨rfl, sorted, limit, offset⟩, ?_⟩
    rw [← joined]
  · intro parts
    obtain ⟨left, right, plain, here, there, ⟨_, sorted, limit, offset⟩, rfl⟩ := parts
    exact ⟨⟨left, right, here, there, rfl⟩, sorted, limit, offset⟩

end Relation

/-- Conditions compile as the parts that they are given in. The first one that fails alone decides
the error. If none fails, the texts that the conditions have alone are joined in their order. A
conjunction compiles as its children do, and tidying at any depth changes nothing. Two filters on a
relation without conditions are joined in their order, each of them kept whole. -/
theorem Formula.filterText_of_parts :
    (∀ mapping conditions,
      (∀ e, filterText mapping conditions = .error e ↔
        ∃ before bad behind, conditions = before ++ bad :: behind ∧
          (∀ c ∈ before, ∃ text, filterText mapping [c] = .ok text) ∧
          filterText mapping [bad] = .error e) ∧
      (∀ text, filterText mapping conditions = .ok text ↔
        ∃ each, List.Forall₂ (fun c alone => filterText mapping [c] = .ok alone) conditions each ∧
          text = joined (each.flatMap Option.toList)) ∧
      filterText mapping [.and conditions] = filterText mapping conditions ∧
      ∀ tidied, Relation.ReflTransGen Condition.Tidies conditions tidied →
        filterText mapping tidied = filterText mapping conditions) ∧
    ∀ {α : Type} (model : Model α) (relation : Relation model) (first second : Filter)
      (a b : Condition), relation.query.conditions = [] →
      first.condition? = some a → second.condition? = some b →
      ∀ params, ((relation.filter first).filter second).compile = .ok params ↔
        ∃ left right plain, filterText model.mapping [a] = .ok (some left) ∧
          filterText model.mapping [b] = .ok (some right) ∧ relation.compile = .ok plain ∧
          params = { plain with filter := some ("AND(" ++ left ++ ", " ++ right ++ ")") } := by
  constructor
  · intro mapping conditions
    refine ⟨fun e => filterText_eq_error, fun text => filterText_eq_ok, ?_, ?_⟩
    · exact filterText_and mapping conditions
    · intro tidied steps
      exact filterText_of_tidied steps
  · intro α model relation first second a b unfiltered one other params
    exact Relation.compile_filter_filter unfiltered one other

/-- A blank formula and needless conjunctions leave no trace, the second of three conditions decides
the error though the third one fails too, and the first of two filters keeps its own conjunction.
The texts hold the columns of the attributes. -/
theorem Formula.filterText_of_parts_of_nested :
    let mapping := FieldMapping.ofList
      [⟨"age", "Age", false, .other⟩, ⟨"role", "User Role", false, .other⟩,
        ⟨"active", "Is Active", false, .boolean⟩]
    let adult : Condition := .equals "age" (.int 18)
    let either : Condition := .oneOf "role" [.text "admin", .text "it's"]
    let untidy : List Condition := [.and [.raw " ", .and [adult]], .and [], either]
    let faulty : List Condition := [either, .equals "" .null, .oneOf "tag" []]
    let model : Model (Option String) :=
      { table := "Users", mapping, ofRecord := fun record => .ok record.id }
    let given := Filter.ofConditions
      (.ofList [("role", .value (.text "admin")), ("active", .value (.bool true))])
    filterText mapping [adult, either] = filterText mapping untidy ∧
      filterText mapping untidy = .ok (some ("AND(\x7bAge\x7d = 18, " ++
        "OR(\x7bUser Role\x7d = 'admin', \x7bUser Role\x7d = 'it\\'s'))")) ∧
      filterText mapping faulty = .error (.invalidField none .emptyName) ∧
      (((Relation.all : Relation model).filter given).filter (.raw "\x7bAge\x7d > 21")).compile =
        .ok { filter := some ("AND(AND(\x7bUser Role\x7d = 'admin', " ++
          "\x7bIs Active\x7d = TRUE()), \x7bAge\x7d > 21)") } := by
  intro mapping adult either untidy faulty model given
  have steps : Relation.ReflTransGen Condition.Tidies untidy [adult, either] :=
    .head (.inside (.drop (by decide)))
      (.head .unwrap (.head .unwrap (.head (.later (.drop rfl)) .refl)))
  obtain ⟨parts, relations⟩ := filterText_of_parts
  refine ⟨(parts mapping untidy).2.2.2 _ steps, by decide +kernel,
    ((parts mapping faulty).1 _).2 ?_, ?_⟩
  · refine ⟨[either], _, _, rfl, ?_, rfl⟩
    intro c member
    cases List.mem_singleton.1 member
    exact ⟨_, rfl⟩
  · refine (relations model .all given _ _ _ rfl rfl rfl _).2 ?_
    exact ⟨"AND(\x7bUser Role\x7d = 'admin', \x7bIs Active\x7d = TRUE())",
      "\x7bAge\x7d > 21", {}, by decide +kernel, by decide +kernel, rfl, rfl⟩

end TableQuery
