import Mathlib.Data.List.Nodup
import TableQuery.FieldMapping

/-!
# The indexes of field mappings

Whatever attributes have been defined and redefined, and in whatever order, the definitions of a
mapping and its two indexes agree. `FieldMapping.Indexed` says so: the index by attribute finds
exactly the definitions, and the index by column finds a definition for just those columns that some
definition uses. Every `define` preserves it, so the look-ups can rely on it.
-/

namespace TableQuery

namespace FieldMapping

variable {mapping : FieldMapping} {defs : List FieldDef} {d old : FieldDef} {name column : String}
  {position : Nat}

/-! ## Columns that pass on -/

theorem getElem?_of_lastOn? (last : lastOn? defs column = some position) :
    ∃ d, defs[position]? = some d ∧ d.column = column := by
  obtain ⟨⟨d, i⟩, found, rfl⟩ := Option.map_eq_some_iff.1 last
  obtain ⟨inside, uses⟩ := List.mem_filter.1 (List.mem_of_getLast? found)
  exact ⟨d, List.mem_zipIdx_iff_getElem?.1 inside, beq_iff_eq.1 uses⟩

theorem exists_lastOn? (inside : d ∈ defs) : ∃ heir, lastOn? defs d.column = some heir := by
  obtain ⟨i, found⟩ := List.mem_iff_getElem?.1 inside
  have user : (d, i) ∈ defs.zipIdx.filter fun entry => entry.1.column == d.column :=
    List.mem_filter.2 ⟨List.mem_zipIdx_iff_getElem?.2 found, beq_self_eq_true _⟩
  cases last : (defs.zipIdx.filter fun entry => entry.1.column == d.column).getLast? with
  | none => rw [List.getLast?_eq_none_iff.1 last] at user; cases user
  | some entry => exact ⟨entry.2, Option.map_eq_some_iff.2 ⟨entry, last, rfl⟩⟩

/-- Only the column that is left can change hands, and only if the leaving definition answered for
it. -/
theorem getElem?_release (byColumn : Std.TreeMap String Nat) (defs : List FieldDef)
    (position : Nat) (left column : String) :
    (release byColumn defs position left)[column]? =
      if left = column ∧ byColumn[left]? = some position then lastOn? defs left
      else byColumn[column]? := by
  unfold release
  by_cases answers : byColumn[left]? = some position
  · cases lastOn? defs left with
    | some heir => simp [answers, Std.TreeMap.getElem?_insert]
    | none => simp [answers, Std.TreeMap.getElem?_erase]
  · simp [answers]

/-! ## Agreement -/

/-- The definitions and the indexes into them agree. -/
structure Indexed (mapping : FieldMapping) : Prop where
  /-- An attribute is found exactly where its definition stands. -/
  byName : ∀ (name : String) (i : Nat),
    mapping.byName[name]? = some i ↔ ∃ d, mapping.defs[i]? = some d ∧ d.name = name
  /-- A column is found at a definition that uses it. -/
  byColumn : ∀ (column : String) (i : Nat), mapping.byColumn[column]? = some i →
    ∃ d, mapping.defs[i]? = some d ∧ d.column = column
  /-- Every column that is used is found. -/
  complete : ∀ d ∈ mapping.defs, ∃ i, mapping.byColumn[d.column]? = some i

theorem Indexed.empty : Indexed empty where
  byName name i := by simp [FieldMapping.empty]
  byColumn column i := by simp [FieldMapping.empty]
  complete := nofun

/-! ## A definition of a new attribute -/

theorem define_of_new (new : mapping.byName[d.name]? = none) : mapping.define d =
    { defs := mapping.defs ++ [d]
      byName := mapping.byName.insert d.name mapping.defs.length
      byColumn := mapping.byColumn.insert d.column mapping.defs.length } := by
  rw [define, new]

theorem getElem?_concat_eq_some {e : FieldDef} {i : Nat} :
    (defs ++ [d])[i]? = some e ↔ defs[i]? = some e ∨ i = defs.length ∧ d = e := by
  rw [List.getElem?_append]
  split
  case isTrue earlier => simp [Nat.ne_of_lt earlier]
  case isFalse later =>
    have outside : defs[i]? = none := List.getElem?_eq_none (Nat.le_of_not_lt later)
    have next : i - defs.length = 0 ↔ i = defs.length := by omega
    rw [List.getElem?_singleton, outside]
    simp [next]

theorem Indexed.define_new (indexed : mapping.Indexed) (new : mapping.byName[d.name]? = none) :
    (mapping.define d).Indexed := by
  have unused (e : FieldDef) (i : Nat) (found : mapping.defs[i]? = some e) : e.name ≠ d.name := by
    intro same
    have known := (indexed.byName d.name i).2 ⟨e, found, same⟩
    rw [new] at known
    cases known
  rw [define_of_new new]
  constructor
  · intro name i
    simp only [Std.TreeMap.getElem?_insert, Std.compare_eq_iff_eq, getElem?_concat_eq_some]
    split
    case isTrue same =>
      subst same
      constructor
      · rintro ⟨⟩
        exact ⟨d, .inr ⟨rfl, rfl⟩, rfl⟩
      · rintro ⟨e, found | ⟨rfl, rfl⟩, called⟩
        · exact absurd called (unused e i found)
        · rfl
    case isFalse other =>
      rw [indexed.byName]
      constructor
      · rintro ⟨e, found, called⟩
        exact ⟨e, .inl found, called⟩
      · rintro ⟨e, found | ⟨rfl, rfl⟩, called⟩
        · exact ⟨e, found, called⟩
        · exact absurd called other
  · intro column i
    simp only [Std.TreeMap.getElem?_insert, Std.compare_eq_iff_eq, getElem?_concat_eq_some]
    split
    case isTrue same =>
      rintro ⟨⟩
      exact ⟨d, .inr ⟨rfl, rfl⟩, same⟩
    case isFalse other =>
      intro found
      obtain ⟨e, stands, uses⟩ := indexed.byColumn column i found
      exact ⟨e, .inl stands, uses⟩
  · intro e inside
    simp only [Std.TreeMap.getElem?_insert, Std.compare_eq_iff_eq]
    split
    case isTrue same => exact ⟨_, rfl⟩
    case isFalse other =>
      rcases List.mem_append.1 inside with earlier | last
      · exact indexed.complete e earlier
      · rw [List.mem_singleton.1 last] at other
        exact absurd rfl other

/-! ## A definition in the place of an earlier one -/

theorem define_of_known (known : mapping.byName[d.name]? = some position)
    (held : mapping.defs[position]? = some old) : mapping.define d =
    { defs := mapping.defs.set position d
      byName := mapping.byName
      byColumn := (release mapping.byColumn (mapping.defs.set position d) position
        old.column).insert d.column position } := by
  rw [define, known]
  simp only [held]

theorem getElem?_set_eq_some {e : FieldDef} {i : Nat} (held : defs[position]? = some old) :
    (defs.set position d)[i]? = some e ↔
      if position = i then d = e else defs[i]? = some e := by
  have inside : position < defs.length := (List.getElem?_eq_some_iff.1 held).1
  by_cases same : position = i
  · rw [← same, List.getElem?_set_self inside, if_pos rfl, Option.some_inj]
  · rw [List.getElem?_set_ne same, if_neg same]

theorem Indexed.define_known (indexed : mapping.Indexed)
    (known : mapping.byName[d.name]? = some position) : (mapping.define d).Indexed := by
  obtain ⟨old, held, called⟩ := (indexed.byName d.name position).1 known
  rw [define_of_known known held]
  constructor
  · intro name i
    simp only [getElem?_set_eq_some held, indexed.byName]
    split
    case isTrue same =>
      subst same
      simp [held, called]
    case isFalse other => rfl
  · intro column i
    simp only [Std.TreeMap.getElem?_insert, Std.compare_eq_iff_eq, getElem?_release]
    split
    case isTrue same =>
      rintro ⟨⟩
      exact ⟨d, (getElem?_set_eq_some held).2 (by simp), same⟩
    case isFalse other =>
      split
      case isTrue left =>
        rw [left.1]
        exact getElem?_of_lastOn?
      case isFalse kept =>
        intro found
        obtain ⟨e, stands, uses⟩ := indexed.byColumn column i found
        -- The definition that has left its column did not answer for this one.
        have elsewhere : position ≠ i := by
          rintro rfl
          rw [held] at stands
          cases stands
          exact kept ⟨uses, uses ▸ found⟩
        exact ⟨e, (getElem?_set_eq_some held).2 (by simpa [elsewhere] using stands), uses⟩
  · intro e inside
    simp only [Std.TreeMap.getElem?_insert, Std.compare_eq_iff_eq, getElem?_release]
    split
    case isTrue same => exact ⟨position, rfl⟩
    case isFalse other =>
      split
      case isTrue left =>
        rw [left.1]
        exact exists_lastOn? inside
      case isFalse kept =>
        rcases List.mem_or_eq_of_mem_set inside with earlier | rfl
        · exact indexed.complete e earlier
        · exact absurd rfl other

/-! ## All definitions -/

theorem Indexed.define (indexed : mapping.Indexed) (d : FieldDef) :
    (mapping.define d).Indexed := by
  cases found : mapping.byName[d.name]? with
  | none => exact indexed.define_new found
  | some position => exact indexed.define_known found

theorem Indexed.ofList (declared : List FieldDef) : (ofList declared).Indexed := by
  have defines {mapping : FieldMapping} (indexed : mapping.Indexed) (declared : List FieldDef) :
      (declared.foldl FieldMapping.define mapping).Indexed := by
    induction declared generalizing mapping with
    | nil => exact indexed
    | cons d rest ih => exact ih (indexed.define d)
  exact defines .empty declared

/-! ## Look-ups -/

namespace Indexed

variable (indexed : mapping.Indexed)

include indexed

/-- No index leads out of the definitions. -/
theorem position_lt (pointed : (∃ name : String, mapping.byName[name]? = some position) ∨
    ∃ column : String, mapping.byColumn[column]? = some position) :
    position < mapping.defs.length := by
  have stands : ∃ d, mapping.defs[position]? = some d := by
    rcases pointed with ⟨name, found⟩ | ⟨column, found⟩
    · exact ((indexed.byName name position).1 found).imp fun _ => And.left
    · exact (indexed.byColumn column position found).imp fun _ => And.left
  obtain ⟨d, found⟩ := stands
  exact (List.getElem?_eq_some_iff.1 found).1

theorem mem_byName : name ∈ mapping.byName ↔ name ∈ mapping.names := by
  rw [Std.TreeMap.mem_iff_isSome_getElem?, Option.isSome_iff_exists, names, List.mem_map]
  constructor
  · rintro ⟨i, found⟩
    obtain ⟨d, stands, called⟩ := (indexed.byName name i).1 found
    exact ⟨d, List.mem_of_getElem? stands, called⟩
  · rintro ⟨d, inside, called⟩
    obtain ⟨i, stands⟩ := List.mem_iff_getElem?.1 inside
    exact ⟨i, (indexed.byName name i).2 ⟨d, stands, called⟩⟩

theorem mem_byColumn : column ∈ mapping.byColumn ↔ ∃ d ∈ mapping.defs, d.column = column := by
  rw [Std.TreeMap.mem_iff_isSome_getElem?, Option.isSome_iff_exists]
  constructor
  · rintro ⟨i, found⟩
    obtain ⟨d, stands, uses⟩ := indexed.byColumn column i found
    exact ⟨d, List.mem_of_getElem? stands, uses⟩
  · rintro ⟨d, inside, rfl⟩
    exact indexed.complete d inside

theorem nodup_names : mapping.names.Nodup := by
  refine List.pairwise_iff_getElem.2 fun i j low high before => ?_
  intro same
  simp only [names, List.length_map, List.getElem_map] at low high same
  have first := (indexed.byName mapping.defs[j].name i).2
    ⟨mapping.defs[i], List.getElem?_eq_getElem low, same⟩
  have second := (indexed.byName mapping.defs[j].name j).2
    ⟨mapping.defs[j], List.getElem?_eq_getElem high, rfl⟩
  rw [first] at second
  exact Nat.ne_of_lt before (Option.some.inj second)

theorem get?_eq_some : mapping.get? name = some d ↔ d ∈ mapping.defs ∧ d.name = name := by
  simp only [get?, Option.bind_eq_some_iff, indexed.byName, List.mem_iff_getElem?]
  constructor
  · rintro ⟨i, ⟨e, stands, called⟩, found⟩
    rw [stands] at found
    cases found
    exact ⟨⟨i, stands⟩, called⟩
  · rintro ⟨⟨i, stands⟩, called⟩
    exact ⟨i, ⟨d, stands, called⟩, stands⟩

theorem mem_of_owner? (owner : mapping.owner? column = some d) :
    d ∈ mapping.defs ∧ d.column = column := by
  obtain ⟨i, found, stands⟩ := Option.bind_eq_some_iff.1 owner
  obtain ⟨e, same, uses⟩ := indexed.byColumn column i found
  rw [stands] at same
  cases same
  exact ⟨List.mem_of_getElem? stands, uses⟩

theorem exists_owner? (inside : d ∈ mapping.defs) :
    ∃ owner, mapping.owner? d.column = some owner := by
  obtain ⟨i, found⟩ := indexed.complete d inside
  obtain ⟨e, stands, _⟩ := indexed.byColumn d.column i found
  exact ⟨e, Option.bind_eq_some_iff.2 ⟨i, found, stands⟩⟩

theorem nameFor?_eq_none :
    mapping.nameFor? column = none ↔ ∀ d ∈ mapping.defs, d.column ≠ column := by
  rw [nameFor?, Option.map_eq_none_iff]
  constructor
  · rintro none d inside rfl
    obtain ⟨owner, found⟩ := indexed.exists_owner? inside
    rw [none] at found
    cases found
  · intro unused
    cases found : mapping.owner? column with
    | none => rfl
    | some owner =>
      obtain ⟨inside, uses⟩ := indexed.mem_of_owner? found
      exact absurd uses (unused owner inside)

theorem resolve_of_nameFor? (answers : mapping.nameFor? column = some name) :
    mapping.resolve name = column := by
  obtain ⟨owner, found, called⟩ := Option.map_eq_some_iff.1 answers
  obtain ⟨inside, uses⟩ := indexed.mem_of_owner? found
  rw [resolve_of_defined (indexed.get?_eq_some.2 ⟨inside, called⟩), uses]

/-- Where no column is shared, the attribute that answers for a column is the one defined with
it. -/
theorem nameFor?_eq_some (unshared : (mapping.defs.map (·.column)).Nodup) :
    mapping.nameFor? column = some name ↔ ∃ d ∈ mapping.defs, d.name = name ∧ d.column = column := by
  constructor
  · intro answers
    obtain ⟨owner, found, called⟩ := Option.map_eq_some_iff.1 answers
    obtain ⟨inside, uses⟩ := indexed.mem_of_owner? found
    exact ⟨owner, inside, called, uses⟩
  · rintro ⟨d, inside, rfl, rfl⟩
    obtain ⟨owner, found⟩ := indexed.exists_owner? inside
    obtain ⟨owns, uses⟩ := indexed.mem_of_owner? found
    rw [nameFor?, found, List.inj_on_of_nodup_map unshared owns inside uses]
    rfl

end Indexed

/-- Whatever has been defined, and in whatever order, the definitions and the two indexes agree. The
attributes are distinct, and each is found at its definition. A column is found exactly if it is
used, at a definition that uses it. No position lies outside the definitions. So the attribute that
answers for a column resolves to it, a column that nothing uses has none, and where no column is
shared, the attribute of a column is the one defined with it. -/
theorem ofList_agrees (declared : List FieldDef) :
    let mapping := ofList declared
    mapping.names.Nodup ∧
    (∀ name, name ∈ mapping.byName ↔ name ∈ mapping.names) ∧
    (∀ (name : String) (i : Nat),
      mapping.byName[name]? = some i ↔ ∃ d, mapping.defs[i]? = some d ∧ d.name = name) ∧
    (∀ column, column ∈ mapping.byColumn ↔ ∃ d ∈ mapping.defs, d.column = column) ∧
    (∀ (column : String) (i : Nat), mapping.byColumn[column]? = some i →
      ∃ d, mapping.defs[i]? = some d ∧ d.column = column) ∧
    (∀ i, ((∃ name : String, mapping.byName[name]? = some i) ∨
      ∃ column : String, mapping.byColumn[column]? = some i) → i < mapping.defs.length) ∧
    (∀ column name, mapping.nameFor? column = some name → mapping.resolve name = column) ∧
    (∀ column, mapping.nameFor? column = none ↔ ∀ d ∈ mapping.defs, d.column ≠ column) ∧
    ((mapping.defs.map (·.column)).Nodup → ∀ column name, mapping.nameFor? column = some name ↔
      ∃ d ∈ mapping.defs, d.name = name ∧ d.column = column) := by
  intro mapping
  have indexed : mapping.Indexed := .ofList declared
  exact ⟨indexed.nodup_names, fun name => indexed.mem_byName, indexed.byName,
    fun column => indexed.mem_byColumn, indexed.byColumn, fun i => indexed.position_lt,
    fun column name => indexed.resolve_of_nameFor?, fun column => indexed.nameFor?_eq_none,
    fun unshared column name => indexed.nameFor?_eq_some unshared⟩

/-- A column changes hands when the attribute defined last on it moves to another column. -/
theorem ofList_agrees_after_move :
    let mapping := ofList
      [⟨"title", "Heading", false, .other⟩, ⟨"display", "Heading", true, .other⟩,
        ⟨"display", "Display", false, .other⟩]
    (mapping.defs.map (·.column)).Nodup ∧ mapping.nameFor? "Heading" = some "title" := by
  intro mapping
  have unshared : (mapping.defs.map (·.column)).Nodup := by decide
  obtain ⟨_, _, _, _, _, _, _, _, agrees⟩ := ofList_agrees
    [⟨"title", "Heading", false, .other⟩, ⟨"display", "Heading", true, .other⟩,
      ⟨"display", "Display", false, .other⟩]
  refine ⟨unshared, (agrees unshared "Heading" "title").2 ?_⟩
  decide

end FieldMapping

end TableQuery
