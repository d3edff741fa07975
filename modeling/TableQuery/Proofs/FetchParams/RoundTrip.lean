import TableQuery.Proofs.Json.ReadBack
import TableQuery.Relation.Basic

/-!
# Parameters are read back

The text of the parameters of a fetch has a member for each part that is set, in a fixed order, and
is read back as the same parameters. So the text says all that the parameters do:
`FetchParams.render_lossless`. The documents as which sort keys and parameters are read are `raw`;
they are put together of parts that may be missing, so no set of parts needs a case of its own.
-/

namespace TableQuery

open Json (Raw present)

/-! ## Sort keys -/

namespace SortField

/-- The parts of the document as which a sort key is read. -/
def rawParts (key : SortField) : List (String × Option Raw) :=
  [("field", some (.ofString key.column)), ("direction", some (.ofString key.direction.name))]

def raw (key : SortField) : Raw := .ofMembers (present key.rawParts)

theorem reads_render (key : SortField) : Raw.Reads key.render key.raw :=
  Raw.reads_braced (.cons ⟨rfl, Raw.reads_quote _⟩ (.cons ⟨rfl, Raw.reads_quote _⟩ .nil))

theorem ofSource?_raw (depth : Nat) (key : SortField) :
    ofSource? (Raw.Within.mk key.raw (depth + 1)) = some key := by
  have parts := Json.structure?_ofMembers key.rawParts (by simp [rawParts]) 2 depth
  have column := Json.string?_ofString key.column depth
  have direction : SortDirection.ofSource? (Raw.Within.mk (.ofString key.direction.name) depth) =
      some key.direction := by
    rw [SortDirection.ofSource?, Raw.layer?_ofString]
    exact SortDirection.ofName?_name _
  have found : Json.structure? ["field", "direction"] 2 (Raw.Within.mk key.raw (depth + 1)) =
      some [some ⟨.ofString key.column, depth⟩, some ⟨.ofString key.direction.name, depth⟩] := parts
  rw [ofSource?, found]
  simp only [Option.bind_eq_bind, Option.bind_some, column, direction]

end SortField

/-! ## Parameters -/

namespace FetchParams

/-- The parts of the text of parameters, by name. -/
def writtenParts (params : FetchParams) : List (String × Option String) :=
  [("filter", params.filter.map Json.quote),
    ("sort", if params.sort.isEmpty then none
      else some (Json.bracketed (params.sort.map SortField.render))),
    ("max_records", params.maxRecords.map fun n => Decimal.writeInt n.toNat),
    ("offset", params.offset.map fun n => Decimal.writeInt n.toNat)]

theorem members_eq_present (params : FetchParams) :
    params.members = present params.writtenParts := by
  unfold members writtenParts
  simp only [Json.present_cons, Option.map_map, List.append_assoc]
  split <;> simp [present, Function.comp_def]

/-- The parts of the document as which parameters are read. -/
def rawParts (params : FetchParams) : List (String × Option Raw) :=
  [("filter", params.filter.map .ofString),
    ("sort", if params.sort.isEmpty then none else some (.arr (params.sort.map SortField.raw))),
    ("max_records", params.maxRecords.map fun n => .ofNat n.toNat),
    ("offset", params.offset.map fun n => .ofNat n.toNat)]

def raw (params : FetchParams) : Raw := .ofMembers (present params.rawParts)

theorem reads_render (params : FetchParams) : Raw.Reads params.render params.raw := by
  have sorted : Option.Rel Raw.Reads
      (if params.sort.isEmpty then none
        else some (Json.bracketed (params.sort.map SortField.render)))
      (if params.sort.isEmpty then none else some (.arr (params.sort.map SortField.raw))) := by
    split
    · exact .none
    · refine .some (Raw.reads_bracketed ?_)
      rw [List.forall₂_map_left_iff, List.forall₂_map_right_iff, List.forall₂_same]
      exact fun key _ => key.reads_render
  rw [render, members_eq_present]
  have formula := Json.reads_part Raw.reads_quote params.filter
  have number := Json.reads_part fun n : UInt64 => Raw.reads_writeInt n.toNat
  exact Json.reads_present (.cons ⟨rfl, formula⟩ (.cons ⟨rfl, sorted⟩
    (.cons ⟨rfl, number params.maxRecords⟩ (.cons ⟨rfl, number params.offset⟩ .nil))))

theorem ofSource?_raw (params : FetchParams) (depth : Nat) :
    ofSource? (Raw.Within.mk params.raw (depth + 3)) = some params := by
  have parts := Json.structure?_ofMembers params.rawParts (by simp [rawParts]) 0 (depth + 2)
  have found : Json.structure? ["filter", "sort", "max_records", "offset"] 0
      (Raw.Within.mk params.raw (depth + 3)) = some [_, _, _, _] := parts
  have formula := Json.optional?_written (fun text => Json.string?_ofString text (depth + 2))
    (fun text => by rw [Raw.layer?_ofString]; simp) params.filter
  have number := Json.optional?_written (fun n => Json.uint64?_ofNat n (depth + 2))
    (fun n => by rw [Raw.layer?_ofNat]; simp)
  have keys : Json.list? SortField.ofSource?
      (Raw.Within.mk (.arr (params.sort.map SortField.raw)) (depth + 2)) = some params.sort :=
    Json.list?_written (SortField.ofSource?_raw depth) params.sort
  rw [ofSource?, found]
  simp only [Option.bind_eq_bind, Option.bind_some, formula, number]
  -- An empty list of keys is not written, and a missing one is read as empty.
  obtain ⟨filter, sort, maxRecords, offset⟩ := params
  cases sort with
  | nil => rfl
  | cons key others =>
    simp only [List.isEmpty_cons, Bool.false_eq_true, if_false, Option.map_some, keys,
      Option.bind_some]

/-- The text of parameters is a document, which is read as they are. -/
theorem source?_render (params : FetchParams) :
    Json.source? params.render = some ⟨params.raw, Json.maxDepth⟩ := by
  rw [Json.source?, (reads_render params).read?, Option.map_some]

theorem read?_render (params : FetchParams) : read? params.render = some params := by
  rw [read?, source?_render, Option.bind_some]
  exact ofSource?_raw params 124

/-- The keys of the parts that are set. -/
def keys (params : FetchParams) : List String :=
  ([("filter", params.filter.isSome), ("sort", !params.sort.isEmpty),
    ("max_records", params.maxRecords.isSome), ("offset", params.offset.isSome)].filter
      Prod.snd).map Prod.fst

/-- The document is an object with the keys of the parts that are set. -/
theorem layer?_raw (params : FetchParams) (depth : Nat) :
    ∃ members, Json.layer? (Raw.Within.mk params.raw (depth + 1)) = some (.obj members) ∧
      members.map Prod.fst = params.keys := by
  refine ⟨_, Raw.layer?_ofMembers (present params.rawParts) depth, ?_⟩
  have set : params.rawParts.map (fun part => (part.1, part.2.isSome)) =
      [("filter", params.filter.isSome), ("sort", !params.sort.isEmpty),
        ("max_records", params.maxRecords.isSome), ("offset", params.offset.isSome)] := by
    have sorted : (if params.sort.isEmpty then none
        else some (Raw.arr (params.sort.map SortField.raw))).isSome = !params.sort.isEmpty := by
      cases params.sort <;> rfl
    simp only [rawParts, List.map_cons, List.map_nil, Option.isSome_map, sorted]
  have named : params.keys = (present params.rawParts).map Prod.fst := by
    rw [Json.map_fst_present, keys, ← set, List.filter_map, List.map_map]
    rfl
  rw [named, List.map_map]
  rfl

theorem isEmpty_iff {params : FetchParams} : params.isEmpty = true ↔ params = {} := by
  obtain ⟨filter, sort, maxRecords, offset⟩ := params
  simp [isEmpty, and_assoc]

/-- The text of parameters loses nothing: it is read back as the same parameters, so no others have
the same text. It is an object with a key for each part that is set, in a fixed order, and an empty
one just for parameters without any. So whatever a relation compiles to can be read from its text,
and if it does not compile, its text fails in the same way. -/
theorem render_lossless :
    (∀ params : FetchParams, read? params.render = some params) ∧
    Function.Injective render ∧
    (∀ params : FetchParams, ∃ source members, Json.source? params.render = some source ∧
      Json.layer? source = some (.obj members) ∧ members.map Prod.fst = params.keys) ∧
    (∀ params : FetchParams, params.render = "\x7b\x7d" ↔ params.isEmpty = true) ∧
    ∀ {α : Type} {model : Model α} (relation : Relation model),
      relation.toJson.map read? = relation.compile.map some := by
  have injective : Function.Injective render := by
    intro params others same
    have read := read?_render params
    rw [same, read?_render others] at read
    exact (Option.some.inj read).symm
  refine ⟨read?_render, injective, ?_, ?_, ?_⟩
  · intro params
    obtain ⟨members, shown, named⟩ := layer?_raw params 126
    exact ⟨_, members, source?_render params, shown, named⟩
  · intro params
    have nothing : ({} : FetchParams).render = "\x7b\x7d" := by decide
    rw [← nothing, injective.eq_iff, isEmpty_iff]
  · intro α model relation
    rw [Relation.toJson]
    cases relation.compile with
    | error e => rfl
    | ok params => exact congrArg Except.ok (read?_render params)

end FetchParams

end TableQuery
