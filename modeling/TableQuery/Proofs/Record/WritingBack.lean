import TableQuery.Proofs.FieldMapping.Handover
import TableQuery.Record

/-!
# Cells that may be written back

A cell may be written back unless the definition that answers for its column is read-only. Where
attributes share a column, another of them may have declared the column read-only without answering
for it; the cell is then offered all the same. So the cells offered are those in the columns that no
definition declares read-only exactly if the answering definition is read-only wherever any is, as
it is when the definitions of every column agree.
-/

namespace TableQuery

namespace FieldMapping

variable {mapping : FieldMapping} {column : String}

/-- Some definition declares the column read-only. -/
def Locked (mapping : FieldMapping) (column : String) : Prop :=
  ∃ d ∈ mapping.defs, d.column = column ∧ d.readonly = true

instance (mapping : FieldMapping) (column : String) : Decidable (mapping.Locked column) :=
  inferInstanceAs (Decidable (∃ d ∈ mapping.defs, d.column = column ∧ d.readonly = true))

theorem isReadonly_iff :
    mapping.isReadonly column = true ↔ ∃ d, mapping.owner? column = some d ∧ d.readonly = true := by
  rw [isReadonly, Option.any_eq_true]

theorem Indexed.locked_of_isReadonly (indexed : mapping.Indexed)
    (readonly : mapping.isReadonly column = true) : mapping.Locked column := by
  obtain ⟨owner, owns, locks⟩ := isReadonly_iff.1 readonly
  obtain ⟨inside, uses⟩ := indexed.mem_of_owner? owns
  exact ⟨owner, inside, uses, locks⟩

/-- The definitions of every column are all read-only or none of them is. -/
def Agreeing (mapping : FieldMapping) : Prop :=
  ∀ d ∈ mapping.defs, ∀ e ∈ mapping.defs, d.column = e.column → d.readonly = e.readonly

instance (mapping : FieldMapping) : Decidable mapping.Agreeing :=
  inferInstanceAs (Decidable (∀ d ∈ mapping.defs, ∀ e ∈ mapping.defs,
    d.column = e.column → d.readonly = e.readonly))

theorem Indexed.isReadonly_of_agreeing (indexed : mapping.Indexed) (agreeing : mapping.Agreeing)
    (locked : mapping.Locked column) : mapping.isReadonly column = true := by
  obtain ⟨d, inside, rfl, locks⟩ := locked
  obtain ⟨owner, owns⟩ := indexed.exists_owner? inside
  obtain ⟨present, uses⟩ := indexed.mem_of_owner? owns
  exact isReadonly_iff.2 ⟨owner, owns, (agreeing owner present d inside uses).trans locks⟩

end FieldMapping

namespace Record

open FieldMapping (ofList heir? isReadonly_iff)

variable {record : Record} {mapping : FieldMapping} {column : String}

theorem getElem?_writableCells (record : Record) (mapping : FieldMapping) (column : String) :
    (record.writableCells mapping)[column]? =
      if mapping.isReadonly column = true then none else record.cells[column]? := by
  refine Std.TreeMap.getElem?_filter'.trans ?_
  cases mapping.isReadonly column <;> cases record.cells[column]? <;> rfl

/-- The cells offered are those in columns that no definition declares read-only, as they are. -/
def OffersUnlocked (record : Record) (mapping : FieldMapping) : Prop :=
  ∀ column document, (record.writableCells mapping)[column]? = some document ↔
    record.cells[column]? = some document ∧ ¬mapping.Locked column

theorem offersUnlocked_iff (indexed : mapping.Indexed) :
    record.OffersUnlocked mapping ↔
      ∀ column ∈ record.cells, mapping.Locked column → mapping.isReadonly column = true := by
  simp only [OffersUnlocked, getElem?_writableCells]
  constructor
  · intro exact column present locked
    by_contra offered
    obtain ⟨document, held⟩ :=
      Option.isSome_iff_exists.1 (Std.TreeMap.mem_iff_isSome_getElem?.1 present)
    have kept := (exact column document).1 (by rw [if_neg offered, held])
    exact kept.2 locked
  · intro answers column document
    by_cases readonly : mapping.isReadonly column = true
    · rw [if_pos readonly]
      have locked := indexed.locked_of_isReadonly readonly
      exact ⟨nofun, fun kept => absurd locked kept.2⟩
    · rw [if_neg readonly]
      refine ⟨fun held => ⟨held, fun locked => readonly (answers column ?_ locked)⟩, And.left⟩
      rw [Std.TreeMap.mem_iff_isSome_getElem?, held]
      rfl

/-- Whatever has been defined, the cells offered for writing back are those whose columns are not
answered for by a read-only definition, as they are; so every cell in a column that no definition
declares read-only is among them. They are no others exactly if the answering definition is
read-only in each column of the record that some definition declares read-only. Where no attribute
is defined twice, it is the definition given last on the column that decides this, and where the
definitions of every column agree, it is always so. -/
theorem writableCells_exact (declared : List FieldDef) (record : Record) :
    let mapping := ofList declared
    (∀ column document, (record.writableCells mapping)[column]? = some document ↔
      record.cells[column]? = some document ∧
        ∀ d, mapping.owner? column = some d → d.readonly = false) ∧
    (∀ column, ¬mapping.Locked column →
      (record.writableCells mapping)[column]? = record.cells[column]?) ∧
    (record.OffersUnlocked mapping ↔ ∀ column ∈ record.cells, mapping.Locked column →
      ∃ d, mapping.owner? column = some d ∧ d.readonly = true) ∧
    ((declared.map (·.name)).Nodup →
      (record.OffersUnlocked mapping ↔ ∀ column ∈ record.cells, mapping.Locked column →
        ∃ d, heir? declared column = some d ∧ d.readonly = true)) ∧
    (mapping.Agreeing → record.OffersUnlocked mapping) := by
  intro mapping
  have indexed : mapping.Indexed := .ofList declared
  have exact : record.OffersUnlocked mapping ↔ ∀ column ∈ record.cells, mapping.Locked column →
      ∃ d, mapping.owner? column = some d ∧ d.readonly = true := by
    simp only [offersUnlocked_iff indexed, isReadonly_iff]
  refine ⟨fun column document => ?_, fun column unlocked => ?_, exact, fun once => ?_,
    fun agreeing => ?_⟩
  · rw [getElem?_writableCells, ← Option.any_eq_false, ← FieldMapping.isReadonly]
    cases mapping.isReadonly column <;> simp
  · rw [getElem?_writableCells, if_neg (mt indexed.locked_of_isReadonly unlocked)]
  · rw [exact]
    simp only [mapping, FieldMapping.owner?_ofList declared once]
  · exact (offersUnlocked_iff indexed).2 fun column _ => indexed.isReadonly_of_agreeing agreeing

theorem writableCells_exact_of_agreeing :
    let declared : List FieldDef := [{ name := "title", column := "Heading", readonly := true },
      { name := "display", column := "Heading", readonly := true },
      { name := "note", column := "Note" }]
    let mapping := ofList declared
    let record := ((new "rec1").setCell "Heading" (.text "A")).setCell "Note" (.text "B")
    mapping.Agreeing ∧ mapping.Locked "Heading" ∧ ¬mapping.Locked "Note" ∧
    (declared.map (·.name)).Nodup ∧
    (∃ d, heir? declared "Heading" = some d ∧ d.readonly = true) ∧
    (record.writableCells mapping)["Note"]? = record.cells["Note"]? ∧
    ¬∃ document, (record.writableCells mapping)["Heading"]? = some document := by
  intro declared mapping record
  have agreeing : mapping.Agreeing := by decide +kernel
  have locked : mapping.Locked "Heading" := by decide +kernel
  have unlocked : ¬mapping.Locked "Note" := by decide +kernel
  have once : (declared.map (·.name)).Nodup := by decide
  have present : "Heading" ∈ record.cells := by decide +kernel
  obtain ⟨_, keeps, _, last, exact⟩ := writableCells_exact declared record
  refine ⟨agreeing, locked, unlocked, once, (last once).1 (exact agreeing) "Heading" present locked,
    keeps "Note" unlocked, ?_⟩
  rintro ⟨document, offered⟩
  exact ((exact agreeing "Heading" document).1 offered).2 locked

/-- The cell of a column that one attribute declares read-only is offered, since the attribute
defined last on the column does not declare it so. -/
theorem writableCells_of_shared_column :
    let mapping := ofList [{ name := "total", column := "Total", readonly := true },
      { name := "sum", column := "Total" }]
    let record := (new "rec1").setCell "Total" (.int 3)
    mapping.Locked "Total" ∧
    (record.writableCells mapping)["Total"]? = some (Value.toJson (.int 3)) ∧
    ¬record.OffersUnlocked mapping := by
  intro mapping record
  have locked : mapping.Locked "Total" := by decide +kernel
  have answered : ¬mapping.isReadonly "Total" = true := by decide +kernel
  have offered : (record.writableCells mapping)["Total"]? = some (Value.toJson (.int 3)) := by
    rw [getElem?_writableCells, if_neg answered]
    exact Std.TreeMap.getElem?_insert_self
  exact ⟨locked, offered, fun exact => ((exact "Total" _).1 offered).2 locked⟩

end Record

end TableQuery
