import TableQuery.Proofs.FieldMapping.History

/-!
# How columns change hands

One more definition changes the look-ups by column in two places at most. Its own column answers
from it. If it moves its attribute away from a column that this attribute answered for, that column
passes to the last of the definitions still on it, or to none. All other columns, and all other
attributes, answer as before. So a column is answered for by the definition given last on it, as
long as no attribute is defined twice.
-/

namespace TableQuery

namespace FieldMapping

variable {mapping : FieldMapping} {defs : List FieldDef} {d : FieldDef} {column : String}

/-! ## The last definition on a column -/

/-- The last of the definitions on a column, which takes the column over. -/
def heir? (defs : List FieldDef) (column : String) : Option FieldDef :=
  (defs.filter (·.column == column)).getLast?

theorem heir?_concat (defs : List FieldDef) (d : FieldDef) (column : String) :
    heir? (defs ++ [d]) column = if d.column = column then some d else heir? defs column := by
  rw [heir?, getLast?_filter_concat, heir?]
  simp only [beq_iff_eq]

theorem lastOn?_bind (defs : List FieldDef) (column : String) :
    (lastOn? defs column).bind (defs[·]?) = heir? defs column := by
  have users : (defs.zipIdx.filter fun entry => entry.1.column == column).map (·.1) =
      defs.filter (·.column == column) := by
    conv_rhs => rw [← List.zipIdx_map_fst 0 defs, List.filter_map]
    rfl
  rw [heir?, ← users, List.getLast?_map, lastOn?]
  cases last : (defs.zipIdx.filter fun entry => entry.1.column == column).getLast? with
  | none => rfl
  | some entry =>
    have inside := (List.mem_filter.1 (List.mem_of_getLast? last)).1
    exact List.mem_zipIdx_iff_getElem?.1 inside

/-- Putting one definition in the place of another changes no filter that lets through neither. -/
theorem filter_set {old : FieldDef} {position : Nat} {p : FieldDef → Bool}
    (held : defs[position]? = some old) (dropsOld : p old = false) (dropsNew : p d = false) :
    (defs.set position d).filter p = defs.filter p := by
  induction defs generalizing position with
  | nil => rfl
  | cons first rest ih =>
    cases position with
    | zero =>
      cases held
      simp only [List.set_cons_zero, List.filter_cons, dropsOld, dropsNew, Bool.false_eq_true,
        if_false]
    | succ position => rw [List.set_cons_succ, List.filter_cons, List.filter_cons, ih held]

namespace Indexed

variable (indexed : mapping.Indexed)

include indexed

/-! ## The attribute that answers -/

theorem nameFor?_eq_some_iff {position : Nat} {name : String}
    (known : mapping.byName[name]? = some position) :
    mapping.nameFor? column = some name ↔ mapping.byColumn[column]? = some position := by
  obtain ⟨old, held, called⟩ := (indexed.byName name position).1 known
  simp only [nameFor?, owner?, Option.map_eq_some_iff, Option.bind_eq_some_iff]
  constructor
  · rintro ⟨e, ⟨i, found, stands⟩, same⟩
    rw [found, indexed.position_unique stands held (same.trans called.symm)]
  · intro found
    exact ⟨old, ⟨position, found, held⟩, called⟩

theorem owner?_define_new (new : mapping.byName[d.name]? = none) (column : String) :
    (mapping.define d).owner? column =
      if d.column = column then some d else mapping.owner? column := by
  rw [owner?, owner?, define_of_new new]
  simp only [Std.TreeMap.getElem?_insert, Std.compare_eq_iff_eq]
  by_cases same : d.column = column
  · rw [if_pos same, if_pos same]
    exact List.getElem?_concat_length
  · rw [if_neg same, if_neg same]
    refine Option.bind_congr fun i found => ?_
    exact List.getElem?_append_left (indexed.position_lt (.inr ⟨column, found⟩))

theorem owner?_define_known {position : Nat} (known : mapping.byName[d.name]? = some position)
    (column : String) : (mapping.define d).owner? column =
      if d.column = column then some d
      else if mapping.byColumn[column]? = some position then heir? (mapping.define d).defs column
      else mapping.owner? column := by
  obtain ⟨old, held, called⟩ := (indexed.byName d.name position).1 known
  -- Only the column that the earlier definition used can be found at its position.
  have answered : mapping.byColumn[column]? = some position → old.column = column := by
    intro found
    obtain ⟨e, stands, uses⟩ := indexed.byColumn column position found
    rw [held] at stands
    exact Option.some.inj stands ▸ uses
  have left : (old.column = column ∧ mapping.byColumn[old.column]? = some position) ↔
      mapping.byColumn[column]? = some position := by
    constructor
    · rintro ⟨rfl, found⟩
      exact found
    · intro found
      exact ⟨answered found, answered found ▸ found⟩
  rw [← lastOn?_bind, owner?, owner?, define_of_known known held]
  simp only [Std.TreeMap.getElem?_insert, Std.compare_eq_iff_eq, getElem?_release, left]
  by_cases same : d.column = column
  · rw [if_pos same, if_pos same]
    exact (getElem?_set_eq_some held).2 (by rw [if_pos rfl])
  rw [if_neg same, if_neg same]
  by_cases passes : mapping.byColumn[column]? = some position
  · rw [if_pos passes, if_pos passes, answered passes]
  · rw [if_neg passes, if_neg passes]
    refine Option.bind_congr fun i found => List.getElem?_set_ne ?_
    rintro rfl
    exact passes found

/-- The definition that answers for a column after one more definition. -/
theorem owner?_define (d : FieldDef) (column : String) : (mapping.define d).owner? column =
    if d.column = column then some d
    else if mapping.nameFor? column = some d.name then heir? (mapping.define d).defs column
    else mapping.owner? column := by
  cases found : mapping.byName[d.name]? with
  | none =>
    have undefined : mapping.get? d.name = none := by rw [get?, found, Option.bind_none]
    have other : mapping.nameFor? column ≠ some d.name := by
      intro answers
      obtain ⟨owner, owns, called⟩ := Option.map_eq_some_iff.1 answers
      rw [indexed.get?_eq_some.2 ⟨(indexed.mem_of_owner? owns).1, called⟩] at undefined
      cases undefined
    rw [if_neg other, indexed.owner?_define_new found]
  | some position =>
    rw [indexed.owner?_define_known found]
    simp only [indexed.nameFor?_eq_some_iff found]

/-! ## The column that is left -/

/-- The definitions of other attributes stay as they are, in their order. -/
theorem others_define (d : FieldDef) : (mapping.define d).defs.filter (·.name != d.name) =
    mapping.defs.filter (·.name != d.name) := by
  rcases indexed.defs_define_cases d with ⟨_, defs⟩ | ⟨position, old, held, called, defs⟩
  · rw [defs, List.filter_append]
    simp
  · rw [defs]
    exact filter_set held (by simp [called]) (by simp)

theorem heir?_define (elsewhere : d.column ≠ column) : heir? (mapping.define d).defs column =
    heir? (mapping.defs.filter (·.name != d.name)) column := by
  have others : (mapping.define d).defs.filter (·.column == column) =
      ((mapping.define d).defs.filter (·.name != d.name)).filter (·.column == column) := by
    rw [List.filter_filter]
    refine List.filter_congr fun e inside => ?_
    rcases indexed.mem_defs_define.1 inside with rfl | ⟨_, other⟩
    · simp [elsewhere]
    · simp [other]
  rw [heir?, others, indexed.others_define, ← heir?]

end Indexed

/-- Where no attribute is defined twice, the definition given last on a column answers for it. -/
theorem owner?_ofList (declared : List FieldDef) (once : (declared.map (·.name)).Nodup)
    (column : String) : (ofList declared).owner? column = heir? declared column := by
  induction declared using List.reverseRecOn with
  | nil => rfl
  | append_singleton history d ih =>
    rw [List.map_append, List.map_singleton, ← List.concat_eq_append, List.nodup_concat] at once
    have unlisted : d.name ∉ (ofList history).names := by
      rw [names_ofList, List.mem_eraseDups]
      exact once.1
    have new : (ofList history).byName[d.name]? = none :=
      Std.TreeMap.getElem?_eq_none (mt (Indexed.ofList history).mem_byName.1 unlisted)
    rw [ofList_concat, (Indexed.ofList history).owner?_define_new new, ih once.2, heir?_concat]

/-! ## All look-ups -/

/-- One more definition after any others changes the look-ups as follows. Its column answers from
it. If its attribute leaves an earlier column, that column goes on answering from another attribute
that answered for it, and passes otherwise to the last definition of another attribute on it, or to
none. No other column and no other attribute is looked up differently. -/
theorem define_changes (declared : List FieldDef) (d : FieldDef) :
    let mapping := ofList declared
    let after := mapping.define d
    (after.nameFor? d.column = some d.name ∧ after.isReadonly d.column = d.readonly) ∧
    (∀ old, mapping.get? d.name = some old → old.column ≠ d.column →
      (mapping.nameFor? old.column ≠ some d.name →
        after.nameFor? old.column = mapping.nameFor? old.column ∧
        after.isReadonly old.column = mapping.isReadonly old.column) ∧
      (mapping.nameFor? old.column = some d.name →
        let heir := heir? (mapping.defs.filter (·.name != d.name)) old.column
        after.nameFor? old.column = heir.map (·.name) ∧
        after.isReadonly old.column = heir.any (·.readonly))) ∧
    (∀ column, column ≠ d.column →
      (∀ old, mapping.get? d.name = some old → old.column ≠ column) →
        after.nameFor? column = mapping.nameFor? column ∧
        after.isReadonly column = mapping.isReadonly column) ∧
    ∀ name, name ≠ d.name →
      after.get? name = mapping.get? name ∧ after.resolve name = mapping.resolve name := by
  intro mapping after
  have indexed : mapping.Indexed := .ofList declared
  have same {column : String} {owner : Option FieldDef} (owned : after.owner? column = owner) :
      after.nameFor? column = owner.map (·.name) ∧
        after.isReadonly column = owner.any (·.readonly) := by
    rw [nameFor?, isReadonly, owned]
    exact ⟨rfl, rfl⟩
  have kept {column : String} (other : d.column ≠ column)
      (answers : mapping.nameFor? column ≠ some d.name) :
      after.nameFor? column = mapping.nameFor? column ∧
        after.isReadonly column = mapping.isReadonly column := by
    refine same ?_
    rw [indexed.owner?_define, if_neg other, if_neg answers]
  refine ⟨?_, ?_, ?_, ?_⟩
  · exact same ((indexed.owner?_define d d.column).trans (if_pos rfl))
  · intro old _ moved
    refine ⟨kept moved.symm, fun answers => same ?_⟩
    rw [indexed.owner?_define, if_neg moved.symm, if_pos answers, indexed.heir?_define moved.symm]
  · intro column other unmoved
    refine kept other.symm fun answers => ?_
    obtain ⟨owner, owns, called⟩ := Option.map_eq_some_iff.1 answers
    obtain ⟨inside, uses⟩ := indexed.mem_of_owner? owns
    exact unmoved owner (indexed.get?_eq_some.2 ⟨inside, called⟩) uses
  · intro name other
    have found : after.get? name = mapping.get? name := by
      rw [indexed.get?_define, if_neg other.symm]
    exact ⟨found, by rw [resolve, resolve, found]⟩

theorem define_changes_of_shared_column :
    let display : FieldDef := { name := "display", column := "Heading", readonly := true }
    let declared : List FieldDef := [{ name := "title", column := "Heading" }, display,
      { name := "label", column := "Heading" }, display]
    let mapping := ofList declared
    let displayMoved := mapping.define { display with column := "Display" }
    let titleMoved := mapping.define { name := "title", column := "Title" }
    mapping.nameFor? "Heading" = some "display" ∧
    displayMoved.nameFor? "Heading" = some "label" ∧ displayMoved.isReadonly "Heading" = false ∧
    titleMoved.nameFor? "Heading" = some "display" ∧ titleMoved.isReadonly "Heading" = true ∧
    titleMoved.nameFor? "Display" = none ∧ titleMoved.resolve "label" = "Heading" := by
  intro display declared mapping displayMoved titleMoved
  have answers : mapping.nameFor? "Heading" = some "display" := by decide +kernel
  have known : mapping.get? "display" = some display := by decide +kernel
  have titled : mapping.get? "title" = some { name := "title", column := "Heading" } := by
    decide +kernel
  obtain ⟨_, passes, _, _⟩ := define_changes declared { display with column := "Display" }
  obtain ⟨_, keeps, others, names⟩ :=
    define_changes declared { name := "title", column := "Title" }
  have passed := (passes display known (by decide)).2 answers
  have kept := (keeps _ titled (by decide)).1 (by rw [answers]; decide)
  have unused : mapping.nameFor? "Display" = none := by decide +kernel
  refine ⟨answers, passed.1.trans (by decide +kernel), passed.2.trans (by decide +kernel),
    kept.1.trans answers, kept.2.trans (by decide +kernel), ?_, ?_⟩
  · refine (others "Display" (by decide) fun old found => ?_).1.trans unused
    rw [titled] at found
    cases found
    decide
  · exact (names "label" (by decide)).2.trans (by decide +kernel)

end FieldMapping

end TableQuery
