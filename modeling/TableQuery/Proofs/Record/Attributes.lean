import TableQuery.Proofs.FieldMapping.Indexes
import TableQuery.Proofs.Record.Writing

/-!
# Cells by attribute

The cells of a record are listed in the order of their columns. A column that some definition uses
is listed under an attribute that stands for it, and any other under its own name. Two columns come
under one name only if one of them is used by no definition and is spelled like the attribute of the
other, since no attribute stands for two columns.
-/

namespace TableQuery

namespace FieldMapping

variable {mapping : FieldMapping} {column first second : String}

/-! ## Names of columns -/

/-- Some definition uses the column. -/
def Used (mapping : FieldMapping) (column : String) : Prop :=
  ∃ d ∈ mapping.defs, d.column = column

instance (mapping : FieldMapping) (column : String) : Decidable (mapping.Used column) :=
  inferInstanceAs (Decidable (∃ d ∈ mapping.defs, d.column = column))

/-- The name under which a column is listed. -/
def label (mapping : FieldMapping) (column : String) : String :=
  (mapping.nameFor? column).getD column

namespace Indexed

variable (indexed : mapping.Indexed)

include indexed

theorem nameFor?_of_used (used : mapping.Used column) :
    mapping.nameFor? column = some (mapping.label column) := by
  obtain ⟨d, inside, rfl⟩ := used
  obtain ⟨owner, owns⟩ := indexed.exists_owner? inside
  rw [label, nameFor?, owns, Option.map_some, Option.getD_some]

theorem label_of_unused (unused : ¬mapping.Used column) : mapping.label column = column := by
  have none : mapping.nameFor? column = none :=
    indexed.nameFor?_eq_none.2 fun d inside uses => unused ⟨d, inside, uses⟩
  rw [label, none, Option.getD_none]

theorem resolve_label (used : mapping.Used column) :
    mapping.resolve (mapping.label column) = column :=
  indexed.resolve_of_nameFor? (indexed.nameFor?_of_used used)

theorem label_mem_names (used : mapping.Used column) : mapping.label column ∈ mapping.names := by
  obtain ⟨owner, owns, called⟩ := Option.map_eq_some_iff.1 (indexed.nameFor?_of_used used)
  rw [← called]
  exact List.mem_map_of_mem (indexed.mem_of_owner? owns).1

theorem label_collision (different : first ≠ second)
    (same : mapping.label first = mapping.label second) :
    (¬mapping.Used first ∧ mapping.Used second ∧ first = mapping.label second) ∨
      (¬mapping.Used second ∧ mapping.Used first ∧ second = mapping.label first) := by
  by_cases usedFirst : mapping.Used first <;> by_cases usedSecond : mapping.Used second
  · -- An attribute listed for both columns would resolve to both.
    have resolved := indexed.resolve_label usedFirst
    rw [same, indexed.resolve_label usedSecond] at resolved
    exact absurd resolved.symm different
  · exact .inr ⟨usedSecond, usedFirst, (same.trans (indexed.label_of_unused usedSecond)).symm⟩
  · exact .inl ⟨usedFirst, usedSecond, (indexed.label_of_unused usedFirst).symm.trans same⟩
  · rw [indexed.label_of_unused usedFirst, indexed.label_of_unused usedSecond] at same
    exact absurd same different

end Indexed

end FieldMapping

namespace Record

open FieldMapping (ofList)

/-! ## The list of all cells -/

theorem cell_of_held {record : Record} {column : String} {document : Json}
    (held : record.cells[column]? = some document) : record.cell column = .ofJson document := by
  rw [cell, held]

theorem attributes_eq (record : Record) (mapping : FieldMapping) :
    record.attributes mapping =
      record.cells.keys.map fun column => (mapping.label column, record.cell column) := by
  rw [attributes, ← Std.TreeMap.map_fst_toList_eq_keys, List.map_map]
  refine List.map_congr_left fun (column, document) inside => ?_
  have held := Std.TreeMap.mem_toList_iff_getElem?_eq_some.1 inside
  exact congrArg (mapping.label column, ·) (cell_of_held held).symm

/-- Whatever has been defined, the list of a record's cells has one pair for each column, in the
order of the columns, with the cell's value. A column that some definition uses is listed under an
attribute that resolves to it, and the attribute reads as the value listed, except that null reads
as false for a tick box. Any other column is listed under its own name. Two columns are listed under
one name only if one of them is used by no definition and is spelled like the attribute of the
other. -/
theorem attributes_by_column (declared : List FieldDef) (record : Record) :
    let mapping := ofList declared
    (record.attributes mapping =
      record.cells.keys.map fun column => (mapping.label column, record.cell column)) ∧
    record.cells.keys.Pairwise (· < ·) ∧
    (∀ column, column ∈ record.cells.keys ↔ ∃ document, record.cells[column]? = some document) ∧
    (∀ column, mapping.Used column →
      let name := mapping.label column
      let emptyTickBox :=
        (∃ d, mapping.get? name = some d ∧ d.kind = .boolean) ∧ record.cell column = .null
      name ∈ mapping.names ∧ mapping.resolve name = column ∧
      (emptyTickBox → record.attributeOf mapping name = .bool false) ∧
      (¬emptyTickBox → record.attributeOf mapping name = record.cell column)) ∧
    (∀ column, ¬mapping.Used column → mapping.label column = column) ∧
    ∀ first second, first ≠ second → mapping.label first = mapping.label second →
      (¬mapping.Used first ∧ mapping.Used second ∧ first = mapping.label second) ∨
        (¬mapping.Used second ∧ mapping.Used first ∧ second = mapping.label first) := by
  intro mapping
  have indexed : mapping.Indexed := .ofList declared
  have ordered : record.cells.keys.Pairwise fun first second => compare first second = .lt :=
    Std.TreeMap.ordered_keys
  refine ⟨record.attributes_eq mapping, ordered.imp compareOfLessAndEq_eq_lt.1, fun column => ?_,
    fun column used => ?_, fun column => indexed.label_of_unused,
    fun first second => indexed.label_collision⟩
  · rw [Std.TreeMap.mem_keys, Std.TreeMap.mem_iff_isSome_getElem?, Option.isSome_iff_exists]
  · have resolved := indexed.resolve_label used
    refine ⟨indexed.label_mem_names used, resolved, ?_, ?_⟩
    · rintro ⟨tickBox, empty⟩
      exact attributeOf_of_null (isBoolean_iff.2 tickBox) (by rwa [resolved])
    · intro filled
      refine (attributeOf_of_not_null ?_).trans (by rw [resolved])
      rwa [isBoolean_iff, resolved]

theorem attributes_by_column_of_colliding :
    let active : FieldDef := { name := "active", column := "Active", kind := .boolean }
    let declared : List FieldDef := [{ name := "nick", column := "Name" }, active,
      { name := "name", column := "Name" }]
    let mapping := ofList declared
    let record := (((new "rec1").setCell "Name" (.text "Ada")).setCell "name"
      (.text "Bob")).setCell "Active" .null
    mapping.label "Name" = "name" ∧ mapping.label "name" = "name" ∧
    record.attributeOf mapping (mapping.label "Name") = .text "Ada" ∧
    record.attributeOf mapping (mapping.label "Active") = .bool false ∧
    ¬mapping.Used "name" ∧ "name" = mapping.label "Name" := by
  intro active declared mapping record
  have used : mapping.Used "Name" := by decide +kernel
  have unused : ¬mapping.Used "name" := by decide +kernel
  have ticked : mapping.Used "Active" := by decide +kernel
  have labelled : mapping.label "Name" = "name" := by decide +kernel
  have named : mapping.get? "name" = some { name := "name", column := "Name" } := by
    decide +kernel
  have boolean : mapping.get? (mapping.label "Active") = some active := by decide +kernel
  obtain ⟨_, _, _, reads, kept, collisions⟩ := attributes_by_column declared record
  have same : mapping.label "Name" = mapping.label "name" :=
    labelled.trans (kept "name" unused).symm
  refine ⟨labelled, kept "name" unused, ?_, ?_, ?_⟩
  · refine ((reads "Name" used).2.2.2 ?_).trans rfl
    rintro ⟨⟨d, found, tickBox⟩, _⟩
    rw [labelled, named] at found
    cases found
    cases tickBox
  · exact (reads "Active" ticked).2.2.1 ⟨⟨active, boolean, rfl⟩, rfl⟩
  · rcases collisions "Name" "name" (by decide) same with ⟨absent, _⟩ | ⟨absent, _, spelled⟩
    · exact absurd used absent
    · exact ⟨absent, spelled⟩

end Record

end TableQuery
