import TableQuery.Proofs.Value.Conversion

/-!
# The two readings of a document

`ofPlainJson?` searches the kinds of value for the first that fits and `ofJson` distinguishes the
kinds of document. Where the search finds a value, it finds the one that `ofJson` gives, at every
depth; it fails just if an object stands somewhere in the document. There `ofJson` has the text of
the object in its place, which `partAt?_ofJson` shows.
-/

namespace TableQuery

/-! ## Places in arrays -/

namespace Json

/-- The items of an array; other documents have none. -/
def items : Json → List Json
  | .arr items => items
  | _ => []

/-- If an object stands anywhere in a document, arrays alone lead to one. -/
theorem exists_place_of_object {document : Json} (found : ¬Objectless document) :
    ∃ path members, partAt? items path document = some (.obj members) := by
  induction document with
  | null | bool | num | str => exact (found (objectless_of_leaf rfl nofun)).elim
  | arr elements ih =>
    simp only [objectless_arr, Classical.not_forall] at found
    obtain ⟨element, member, inner⟩ := found
    obtain ⟨path, members, place⟩ := ih element member inner
    obtain ⟨position, here⟩ := List.mem_iff_getElem?.1 member
    refine ⟨position :: path, members, ?_⟩
    rw [partAt?, items, here]
    exact place
  | obj members => exact ⟨[], members, rfl⟩

end Json

namespace Value

open Json (Objectless)

theorem children_ofJson (document : Json) :
    children (ofJson document) = document.items.map ofJson := by
  cases document with
  | null | bool | str | obj => rfl
  | num n =>
    rw [ofJson]
    split <;> rfl
  | arr items =>
    rw [ofJson_arr]
    rfl

/-- Every part that arrays lead to is read in its place. -/
theorem partAt?_ofJson (path : List Nat) (document : Json) :
    partAt? children path (ofJson document) = (partAt? Json.items path document).map ofJson :=
  partAt?_map children_ofJson path document

/-! ## The search for a kind -/

theorem ofPlainJson?_num (n : Json.Number) : ofPlainJson? (.num n) = some (ofJson (.num n)) := by
  unfold ofPlainJson? ofJson
  cases fits : n.toInt64? <;> simp [ofJsonNull?, ofJsonBool?, ofJsonInt?, ofJsonFloat?, fits]

theorem ofPlainJson?_arr (items : List Json) :
    ofPlainJson? (.arr items) = (ofPlainItems? items).map list := by
  unfold ofPlainJson?
  rfl

theorem ofPlainJson?_obj (members : List (String × Json)) : ofPlainJson? (.obj members) = none := by
  unfold ofPlainJson?
  rfl

theorem ofPlainItems?_of_all {items : List Json}
    (all : ∀ item ∈ items, ofPlainJson? item = some (ofJson item)) :
    ofPlainItems? items = some (items.map ofJson) := by
  induction items with
  | nil => rfl
  | cons item rest ih =>
    obtain ⟨here, there⟩ := List.forall_mem_cons.1 all
    rw [ofPlainItems?, here, ih there]
    rfl

theorem ofPlainItems?_of_none {items : List Json} {item : Json} (member : item ∈ items)
    (refused : ofPlainJson? item = none) : ofPlainItems? items = none := by
  induction member with
  | head rest =>
    rw [ofPlainItems?, refused]
    rfl
  | tail first _ ih =>
    rw [ofPlainItems?, ih]
    cases ofPlainJson? first <;> rfl

/-! ## Agreement -/

theorem ofPlainJson?_of_objectless {document : Json} (objectless : Objectless document) :
    ofPlainJson? document = some (ofJson document) := by
  induction document with
  | null | bool | str =>
    unfold ofPlainJson?
    rfl
  | num n => exact ofPlainJson?_num n
  | arr items ih =>
    have each : ∀ item ∈ items, ofPlainJson? item = some (ofJson item) := fun item member =>
      ih item member (Json.objectless_arr.1 objectless item member)
    rw [ofPlainJson?_arr, ofPlainItems?_of_all each, ofJson_arr]
    rfl
  | obj members => exact absurd objectless (Json.not_objectless_obj members)

/-- One object refuses the whole document. -/
theorem ofPlainJson?_of_object {document : Json} (found : ¬Objectless document) :
    ofPlainJson? document = none := by
  induction document with
  | null | bool | num | str => exact (found (Json.objectless_of_leaf rfl nofun)).elim
  | arr items ih =>
    simp only [Json.objectless_arr, Classical.not_forall] at found
    obtain ⟨item, member, inner⟩ := found
    rw [ofPlainJson?_arr, ofPlainItems?_of_none member (ih item member inner)]
    rfl
  | obj members => exact ofPlainJson?_obj members

/-- The search for a kind succeeds just on the documents without objects, and gives what `ofJson`
gives. A document with an object is refused as a whole; arrays lead to an object in it, and each
object they lead to is read by `ofJson` as its text. -/
theorem plainReading_agrees (document : Json) :
    ((∃ value, ofPlainJson? document = some value) ↔ Objectless document) ∧
    (∀ value, ofPlainJson? document = some value → value = ofJson document) ∧
    (¬Objectless document → ofPlainJson? document = none ∧
      ∃ path members, partAt? Json.items path document = some (.obj members)) ∧
    ∀ path members, partAt? Json.items path document = some (.obj members) →
      partAt? children path (ofJson document) = some (.text (Json.obj members).render) := by
  have accepted : ∀ value, ofPlainJson? document = some value → Objectless document := by
    intro value reads
    refine Classical.byContradiction fun found => ?_
    rw [ofPlainJson?_of_object found] at reads
    cases reads
  refine ⟨⟨?_, ?_⟩, ?_, ?_, ?_⟩
  · exact fun ⟨value, reads⟩ => accepted value reads
  · exact fun objectless => ⟨_, ofPlainJson?_of_objectless objectless⟩
  · intro value reads
    rw [ofPlainJson?_of_objectless (accepted value reads)] at reads
    exact (Option.some.inj reads).symm
  · exact fun found => ⟨ofPlainJson?_of_object found, Json.exists_place_of_object found⟩
  · intro path members place
    rw [partAt?_ofJson, place]
    rfl

theorem plainReading_agrees_of_nested_object :
    let document : Json := .arr [.bool true, .arr [.obj [("open", .bool false)]]]
    let plain : Json := .arr [.null, .arr []]
    ¬Objectless document ∧ ofPlainJson? document = none ∧
    partAt? children [1, 0] (ofJson document) = some (.text "\x7b\"open\":false\x7d") ∧
    Objectless plain ∧ ofPlainJson? plain = some (.list [.null, .list []]) := by
  intro document plain
  have found : ¬Objectless document := by
    simp [document, Json.objectless_arr, Json.not_objectless_obj]
  have objectless : Objectless plain := by
    have null : Objectless .null := Json.objectless_of_leaf rfl nofun
    simp [plain, Json.objectless_arr, null]
  have place : partAt? Json.items [1, 0] document = some (.obj [("open", .bool false)]) := rfl
  obtain ⟨_, _, refused, texts⟩ := plainReading_agrees document
  obtain ⟨exactly, same, _, _⟩ := plainReading_agrees plain
  obtain ⟨value, reads⟩ := exactly.2 objectless
  refine ⟨found, (refused found).1, (texts _ _ place).trans rfl, objectless, ?_⟩
  rw [reads, same value reads]
  rfl

end Value

end TableQuery
