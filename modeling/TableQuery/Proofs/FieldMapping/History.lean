import Mathlib.Data.Finset.Card
import TableQuery.Proofs.FieldMapping.Indexes

/-!
# Mappings and the definitions they were given

Read by attribute, a mapping is a table in which the last definition of an attribute holds and the
attributes stand in the order in which they were first declared. One more definition takes the place
of the attribute's earlier one, if there is one, and comes last otherwise; the table follows by
induction on the definitions.
-/

namespace TableQuery

namespace FieldMapping

variable {mapping : FieldMapping} {d e f : FieldDef} {name : String}

/-! ## One more definition -/

namespace Indexed

variable (indexed : mapping.Indexed)

include indexed

theorem position_unique {i j : Nat} (first : mapping.defs[i]? = some e)
    (second : mapping.defs[j]? = some f) (same : e.name = f.name) : i = j := by
  have atFirst := (indexed.byName f.name i).2 ⟨e, first, same⟩
  have atSecond := (indexed.byName f.name j).2 ⟨f, second, rfl⟩
  rw [atFirst] at atSecond
  exact Option.some.inj atSecond

theorem defs_define_cases (d : FieldDef) :
    (d.name ∉ mapping.names ∧ (mapping.define d).defs = mapping.defs ++ [d]) ∨
      ∃ position old, mapping.defs[position]? = some old ∧ old.name = d.name ∧
        (mapping.define d).defs = mapping.defs.set position d := by
  cases found : mapping.byName[d.name]? with
  | none =>
    have new : d.name ∉ mapping.names := by
      rw [← indexed.mem_byName, Std.TreeMap.mem_iff_isSome_getElem?, found]
      exact Bool.false_ne_true
    exact .inl ⟨new, by rw [define_of_new found]⟩
  | some position =>
    obtain ⟨old, held, called⟩ := (indexed.byName d.name position).1 found
    exact .inr ⟨position, old, held, called, by rw [define_of_known found held]⟩

theorem mem_defs_define :
    e ∈ (mapping.define d).defs ↔ e = d ∨ e ∈ mapping.defs ∧ e.name ≠ d.name := by
  rcases indexed.defs_define_cases d with ⟨new, defs⟩ | ⟨position, old, held, called, defs⟩
  · have other (inside : e ∈ mapping.defs) : e.name ≠ d.name := by
      intro same
      exact new (same ▸ List.mem_map_of_mem inside)
    rw [defs, List.mem_append, List.mem_singleton, or_comm]
    exact or_congr_right ⟨fun inside => ⟨inside, other inside⟩, And.left⟩
  · rw [defs, List.mem_iff_getElem?]
    simp only [getElem?_set_eq_some held]
    constructor
    · rintro ⟨i, found⟩
      split at found
      case isTrue => exact .inl found.symm
      case isFalse elsewhere =>
        refine .inr ⟨List.mem_of_getElem? found, fun same => elsewhere ?_⟩
        exact indexed.position_unique held found (called.trans same.symm)
    · rintro (rfl | ⟨inside, other⟩)
      · exact ⟨position, by rw [if_pos rfl]⟩
      · obtain ⟨i, found⟩ := List.mem_iff_getElem?.1 inside
        have elsewhere : position ≠ i := by
          rintro rfl
          rw [held] at found
          cases found
          exact other called
        exact ⟨i, by rwa [if_neg elsewhere]⟩

theorem get?_define (d : FieldDef) (name : String) :
    (mapping.define d).get? name = if d.name = name then some d else mapping.get? name := by
  refine Option.ext fun e => ?_
  rw [(indexed.define d).get?_eq_some, indexed.mem_defs_define]
  by_cases same : d.name = name
  · subst same
    rw [if_pos rfl, Option.some_inj]
    constructor
    · rintro ⟨rfl | ⟨_, other⟩, called⟩
      · rfl
      · exact absurd called other
    · rintro rfl
      exact ⟨.inl rfl, rfl⟩
  · rw [if_neg same, indexed.get?_eq_some]
    constructor
    · rintro ⟨rfl | ⟨inside, _⟩, called⟩
      · exact absurd called same
      · exact ⟨inside, called⟩
    · rintro ⟨inside, rfl⟩
      exact ⟨.inr ⟨inside, Ne.symm same⟩, rfl⟩

theorem names_define (d : FieldDef) : (mapping.define d).names =
    if d.name ∈ mapping.names then mapping.names else mapping.names ++ [d.name] := by
  rcases indexed.defs_define_cases d with ⟨new, defs⟩ | ⟨position, old, held, called, defs⟩
  · rw [if_neg new, names, defs, List.map_append]
    rfl
  · have known : d.name ∈ mapping.names := called ▸ List.mem_map_of_mem (List.mem_of_getElem? held)
    have kept : mapping.names[position]? = some d.name := by
      rw [names, List.getElem?_map, held, Option.map_some, called]
    obtain ⟨inside, stands⟩ := List.getElem?_eq_some_iff.1 kept
    calc (mapping.define d).names
      _ = mapping.names.set position d.name := by rw [names, defs, List.map_set, names]
      _ = mapping.names := by rw [← stands, List.set_getElem_self]
      _ = if d.name ∈ mapping.names then mapping.names else mapping.names ++ [d.name] :=
        (if_pos known).symm

/-- The definitions are those that the look-ups by attribute find. -/
theorem defs_eq_get? : mapping.defs.map some = mapping.names.map mapping.get? := by
  rw [names, List.map_map]
  refine List.map_congr_left fun d inside => ?_
  exact (indexed.get?_eq_some.2 ⟨inside, rfl⟩).symm

end Indexed

/-! ## All definitions -/

theorem getLast?_filter_concat (history : List FieldDef) (d : FieldDef) (p : FieldDef → Bool) :
    ((history ++ [d]).filter p).getLast? =
      if p d = true then some d else (history.filter p).getLast? := by
  rw [List.filter_append, List.filter_singleton]
  cases p d with
  | true => exact List.getLast?_concat
  | false => exact congrArg List.getLast? (List.append_nil _)

/-- The last of the definitions given for an attribute. -/
def lastDefined? (history : List FieldDef) (name : String) : Option FieldDef :=
  (history.filter (·.name == name)).getLast?

theorem lastDefined?_concat (history : List FieldDef) (d : FieldDef) (name : String) :
    lastDefined? (history ++ [d]) name =
      if d.name = name then some d else lastDefined? history name := by
  rw [lastDefined?, getLast?_filter_concat, lastDefined?]
  simp only [beq_iff_eq]

theorem ofList_concat (history : List FieldDef) (d : FieldDef) :
    ofList (history ++ [d]) = (ofList history).define d :=
  List.foldl_concat define empty d history

theorem get?_ofList (history : List FieldDef) (name : String) :
    (ofList history).get? name = lastDefined? history name := by
  induction history using List.reverseRecOn with
  | nil => rfl
  | append_singleton history d ih =>
    rw [ofList_concat, (Indexed.ofList history).get?_define, ih, lastDefined?_concat]

/-- Without its later occurrences, a list grows at its end by what is not in it yet. -/
theorem eraseDups_concat (names : List String) (name : String) :
    (names ++ [name]).eraseDups =
      if name ∈ names.eraseDups then names.eraseDups else names.eraseDups ++ [name] := by
  rw [List.eraseDups_append, List.cons_removeAll, List.nil_removeAll]
  by_cases known : name ∈ names
  · simp [known]
  · simp [known, List.eraseDups_cons]

theorem names_ofList (history : List FieldDef) :
    (ofList history).names = (history.map (·.name)).eraseDups := by
  induction history using List.reverseRecOn with
  | nil => rfl
  | append_singleton history d ih =>
    rw [ofList_concat, (Indexed.ofList history).names_define, ih, List.map_append,
      List.map_singleton, eraseDups_concat]

theorem size_ofList (history : List FieldDef) :
    (ofList history).size = (history.map (·.name)).toFinset.card := by
  have distinct : (ofList history).names.toFinset = (history.map (·.name)).toFinset := by
    ext name
    rw [List.mem_toFinset, List.mem_toFinset, names_ofList, List.mem_eraseDups]
  rw [← distinct, List.toFinset_card_of_nodup (Indexed.ofList history).nodup_names, names,
    List.length_map, size]

/-! ## Declarations -/

/-- A declaration of an attribute: plainly, by its column, or with a whole definition. -/
inductive Declaration where
  | plain (name column : String)
  | full (d : FieldDef)

/-- The definition that a declaration gives. -/
def Declaration.given : Declaration → FieldDef
  | plain name column => { name, column }
  | full d => d

/-- The mapping after a declaration. -/
def declare (mapping : FieldMapping) : Declaration → FieldMapping
  | .plain name column => mapping.assign name column
  | .full d => mapping.define d

theorem declare_eq (mapping : FieldMapping) (declaration : Declaration) :
    mapping.declare declaration = mapping.define declaration.given := by
  cases declaration <;> rfl

theorem foldl_declare (declarations : List Declaration) :
    declarations.foldl declare empty = ofList (declarations.map Declaration.given) := by
  rw [ofList, List.foldl_map]
  exact congrArg (declarations.foldl · empty) (funext₂ declare_eq)

/-- After any declarations, plain or whole, in any order, an attribute's definition is the last one
given for it, and its column that of this definition, or the one of the same name. The attributes
are each listed once, in the order of their first declaration, and each definition is the last one
given for its attribute; there are as many as distinct names. -/
theorem declared_lastWins (declarations : List Declaration) :
    let mapping := declarations.foldl declare empty
    let history := declarations.map Declaration.given
    (∀ name, mapping.get? name = lastDefined? history name) ∧
    (∀ name, mapping.resolve name = ((lastDefined? history name).map (·.column)).getD name) ∧
    mapping.names = (history.map (·.name)).eraseDups ∧ mapping.names.Nodup ∧
    mapping.defs.map some = mapping.names.map (lastDefined? history) ∧
    mapping.size = (history.map (·.name)).toFinset.card := by
  intro mapping history
  have built : mapping = ofList history := foldl_declare declarations
  have found (name : String) : mapping.get? name = lastDefined? history name := by
    rw [built, get?_ofList]
  have indexed : mapping.Indexed := built ▸ .ofList history
  refine ⟨found, ?_, built ▸ names_ofList history, indexed.nodup_names, ?_,
    built ▸ size_ofList history⟩
  · intro name
    rw [resolve, found]
    cases lastDefined? history name <;> rfl
  · rw [indexed.defs_eq_get?]
    exact congrArg (mapping.names.map ·) (funext found)

end FieldMapping

end TableQuery
