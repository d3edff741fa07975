import TableQuery.Proofs.Value.Conversion
import TableQuery.Record
import TableQuery.Value.Convert

/-!
# Writing cells and reading them back

A sequence of writes leaves in each column what the last write to it put there, with null in the
place of doubles that are not finite, since the cells of a record are documents. Writes to other
columns change nothing, and neither do writes change the identifier or the time of creation. Data of
a target type therefore come back from the column they were written to as they were, under every
attribute that stands for that column, until it is written again.
-/

namespace TableQuery

theorem Value.isNull_iff {value : Value} : value.isNull = true ↔ value = .null := by
  cases value <;> simp [isNull]

namespace Record

open Value (AllFinite finitePart)

variable {record : Record} {mapping : FieldMapping} {name : String}

/-! ## Sequences of writes -/

/-- The record after a sequence of writes, each of a value to a column. -/
def setCells (record : Record) (writes : List (String × Value)) : Record :=
  writes.foldl (fun record write => record.setCell write.1 write.2) record

/-- The value that the last write to a column puts there. -/
def lastWritten? (writes : List (String × Value)) (column : String) : Option Value :=
  writes.reverse.lookup column

theorem cell_setCell (record : Record) (target : String) (value : Value) (column : String) :
    (record.setCell target value).cell column =
      if target = column then value.finitePart else record.cell column := by
  have inserted : (record.setCell target value).cells[column]? =
      if target = column then some value.toJson else record.cells[column]? := by
    refine Std.TreeMap.getElem?_insert.trans ?_
    simp only [Std.compare_eq_iff_eq]
  rw [cell, inserted]
  by_cases same : target = column
  · rw [if_pos same, if_pos same]
    exact Value.ofJson_toJson value
  · rw [if_neg same, if_neg same]
    rfl

theorem lastWritten?_cons (target : String) (value : Value) (rest : List (String × Value))
    (column : String) :
    lastWritten? ((target, value) :: rest) column =
      (lastWritten? rest column).or (if target = column then some value else none) := by
  rw [lastWritten?, List.reverse_cons, List.lookup_append, ← lastWritten?]
  by_cases same : target = column
  · rw [if_pos same, same, List.lookup_cons_self]
  · have other : (column == target) = false := beq_eq_false_iff_ne.2 (Ne.symm same)
    rw [if_neg same, List.lookup_cons, other, List.lookup_nil]

theorem lastWritten?_eq_none {writes : List (String × Value)} {column : String}
    (elsewhere : ∀ write ∈ writes, write.1 ≠ column) : lastWritten? writes column = none := by
  refine List.lookup_eq_none_iff.2 fun write member => ?_
  exact bne_iff_ne.2 (elsewhere write (List.mem_reverse.1 member)).symm

theorem cell_setCells (record : Record) (writes : List (String × Value)) (column : String) :
    (record.setCells writes).cell column =
      (lastWritten? writes column).elim (record.cell column) finitePart := by
  induction writes generalizing record with
  | nil => rfl
  | cons write rest ih =>
    obtain ⟨target, value⟩ := write
    refine (ih (record.setCell target value)).trans ?_
    rw [lastWritten?_cons, cell_setCell]
    -- A later write to the column hides this one.
    cases lastWritten? rest column with
    | some later => rfl
    | none =>
      rw [Option.none_or]
      split <;> rfl

theorem setCells_unchanged (record : Record) (writes : List (String × Value)) :
    (record.setCells writes).id = record.id ∧
      (record.setCells writes).createdTime = record.createdTime := by
  induction writes generalizing record with
  | nil => exact ⟨rfl, rfl⟩
  | cons write rest ih => exact ih (record.setCell write.1 write.2)

/-! ## Attributes -/

theorem isBoolean_iff :
    isBoolean mapping name = true ↔ ∃ d, mapping.get? name = some d ∧ d.kind = .boolean := by
  simp only [isBoolean, Option.any_eq_true, beq_iff_eq]

theorem attributeOf_of_null (tickBox : isBoolean mapping name = true)
    (empty : record.cell (mapping.resolve name) = .null) :
    record.attributeOf mapping name = .bool false := by
  rw [attributeOf, tickBox, empty]
  rfl

theorem attributeOf_of_not_null
    (filled : ¬(isBoolean mapping name = true ∧ record.cell (mapping.resolve name) = .null)) :
    record.attributeOf mapping name = record.cell (mapping.resolve name) := by
  refine if_neg ?_
  rwa [Bool.and_eq_true, Value.isNull_iff]

/-! ## Reading back -/

/-- Written to the column of an attribute, the datum is what the attribute reads as, until the
column is written again. -/
def ReadsBack {α : Type} [ToValue α] [FromValue α] (a : α) : Prop :=
  ∀ (record : Record) (mapping : FieldMapping) (name : String) (later : List (String × Value)),
    (∀ write ∈ later, write.1 ≠ mapping.resolve name) →
      let after := (record.setCell (mapping.resolve name) (toValue a)).setCells later
      after.readAs mapping name = .ok a ∧ after.readOptional mapping name = .ok (some a)

theorem readsBack_of_fromValue {α : Type} [ToValue α] [FromValue α] {a : α}
    (reads : fromValue (toValue a) = .ok a) (finite : AllFinite (toValue a))
    (filled : (toValue a).isNull = false) : ReadsBack a := by
  intro record mapping name later elsewhere after
  have held : after.cell (mapping.resolve name) = toValue a := by
    rw [cell_setCells, lastWritten?_eq_none elsewhere, Option.elim_none, cell_setCell, if_pos rfl,
      Value.finitePart_eq_self finite]
  have shown : after.attributeOf mapping name = toValue a := by
    rw [attributeOf_of_not_null, held]
    rintro ⟨_, empty⟩
    rw [← held, empty] at filled
    cases filled
  have read : after.readAs mapping name = .ok a := by
    rw [readAs, shown, reads]
  refine ⟨read, ?_⟩
  rw [readOptional, shown, filled, read]
  rfl

theorem readsBack_bool (b : Bool) : ReadsBack b :=
  readsBack_of_fromValue rfl (Value.allFinite_of_leaf rfl nofun) rfl

theorem readsBack_int (n : Int64) : ReadsBack n :=
  readsBack_of_fromValue rfl (Value.allFinite_of_leaf rfl nofun) rfl

theorem readsBack_float {x : Float} (finite : x.isFinite = true) : ReadsBack x := by
  refine readsBack_of_fromValue rfl (Value.allFinite_of_leaf rfl ?_) rfl
  rintro _ ⟨⟩
  exact finite

theorem readsBack_text (s : String) : ReadsBack s :=
  readsBack_of_fromValue rfl (Value.allFinite_of_leaf rfl nofun) rfl

theorem mapM_fromValue_texts (texts : List String) :
    (texts.map toValue).mapM (fromValue : Value → Except TypeMismatch String) = .ok texts := by
  induction texts with
  | nil => rfl
  | cons s rest ih =>
    rw [List.map_cons, List.mapM_cons, ih]
    rfl

theorem readsBack_texts (texts : List String) : ReadsBack texts := by
  refine readsBack_of_fromValue (mapM_fromValue_texts texts) ?_ rfl
  refine Value.allFinite_list.2 (List.forall_mem_map.2 fun s _ => ?_)
  exact Value.allFinite_of_leaf rfl nofun

/-- After any sequence of writes, an attribute is what the last write to its column put there, with
null in the place of doubles that are not finite, or else what the record held; null reads as false
for a tick box. The identifier and the time of creation stay. Truth values, integers, finite
doubles, texts and lists of texts read back as they were written. -/
theorem writes_readBack :
    (∀ (record : Record) (writes : List (String × Value)) (mapping : FieldMapping) (name : String),
      let column := mapping.resolve name
      let after := record.setCells writes
      let held := (lastWritten? writes column).elim (record.cell column) finitePart
      let tickBox := ∃ d, mapping.get? name = some d ∧ d.kind = .boolean
      (tickBox ∧ held = .null → after.attributeOf mapping name = .bool false) ∧
      (¬(tickBox ∧ held = .null) → after.attributeOf mapping name = held) ∧
      after.id = record.id ∧ after.createdTime = record.createdTime) ∧
    (∀ b : Bool, ReadsBack b) ∧ (∀ n : Int64, ReadsBack n) ∧
    (∀ x : Float, x.isFinite = true → ReadsBack x) ∧
    (∀ s : String, ReadsBack s) ∧ ∀ texts : List String, ReadsBack texts := by
  refine ⟨?_, readsBack_bool, readsBack_int, fun _ => readsBack_float, readsBack_text,
    readsBack_texts⟩
  intro record writes mapping name column after held tickBox
  have cell : after.cell column = held := cell_setCells record writes column
  refine ⟨?_, ?_, setCells_unchanged record writes⟩
  · rintro ⟨declared, empty⟩
    exact attributeOf_of_null (isBoolean_iff.2 declared) (cell.trans empty)
  · intro filled
    refine (attributeOf_of_not_null ?_).trans cell
    rwa [isBoolean_iff, cell]

theorem writes_readBack_of_shared_column :
    let tick : FieldDef := { name := "done", column := "Done", kind := .boolean }
    let mapping := FieldMapping.ofList [tick, { tick with name := "finished" }]
    let writes : List (String × Value) :=
      [("Done", .bool true), ("Total", .int 3), ("Done", .float (0.0 / 0.0))]
    let after := (new "rec1").setCells writes
    mapping.get? "done" = some tick ∧ mapping.resolve "finished" = "Done" ∧
    after.attributeOf mapping "done" = .bool false ∧
    after.attributeOf mapping "Total" = .int 3 ∧
    (1.5 : Float).isFinite = true ∧
    ((after.setCell "Total" (.float 1.5)).setCell "Done" .null).readAs mapping "Total" =
      .ok (1.5 : Float) := by
  intro tick mapping writes after
  have defined : mapping.get? "done" = some tick := by decide +kernel
  have shared : mapping.resolve "finished" = "Done" := by decide +kernel
  have plain : mapping.get? "Total" = none := by decide +kernel
  have finite : (1.5 : Float).isFinite = true := by decide
  obtain ⟨written, _, _, floats, _, _⟩ := writes_readBack
  have total : mapping.resolve "Total" = "Total" := FieldMapping.resolve_of_undefined plain
  refine ⟨defined, shared, ?_, ?_, finite, ?_⟩
  · refine (written _ writes mapping "done").1 ⟨⟨tick, defined, rfl⟩, ?_⟩
    rw [FieldMapping.resolve_of_defined defined]
    rfl
  · refine ((written _ writes mapping "Total").2.1 ?_).trans ?_
    · rintro ⟨⟨d, declared, _⟩, _⟩
      rw [plain] at declared
      cases declared
    · rw [total]
      rfl
  · have read := (floats 1.5 finite after mapping "Total" [("Done", .null)] ?_).1
    · rw [total] at read
      exact read
    · rw [total]
      decide

end Record

end TableQuery
