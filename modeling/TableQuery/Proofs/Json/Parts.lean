import Mathlib.Logic.Relation
import TableQuery.Json.Basic
import TableQuery.Proofs.Double

/-!
# The parts of documents

`Json.induction` proves a statement about documents from their items and members to the whole.
`Inside` says of documents, and of any other trees, that one stands somewhere in another one, at any
depth, and `partAt?` finds it by a path. Two kinds of documents are told by their parts: those
without objects, and those whose integers have 64 signed bits.
-/

namespace TableQuery

/-! ## Parts -/

/-- The part stands somewhere in the tree, if it is not the tree itself. -/
abbrev Inside {τ : Type} (children : τ → List τ) : τ → τ → Prop :=
  Relation.ReflTransGen fun part tree => part ∈ children tree

section Inside

variable {τ : Type} {children : τ → List τ} {part tree : τ}

theorem inside_iff :
    Inside children part tree ↔
      tree = part ∨ ∃ child ∈ children tree, Inside children part child := by
  refine (Relation.ReflTransGen.cases_tail_iff ..).trans (or_congr_right ?_)
  simp only [and_comm]

/-- A leaf has no part but itself. -/
theorem inside_of_leaf (leaf : children tree = []) : Inside children part tree ↔ tree = part := by
  rw [inside_iff, leaf]
  simp

/-- The part that a path of positions leads to, from the tree inwards. -/
def partAt? (children : τ → List τ) : List Nat → τ → Option τ
  | [], tree => some tree
  | position :: path, tree => (children tree)[position]?.bind (partAt? children path)

/-- A function that keeps the layers of trees keeps the places of their parts. -/
theorem partAt?_map {υ : Type} {others : υ → List υ} {f : τ → υ}
    (layer : ∀ tree, others (f tree) = (children tree).map f) (path : List Nat) (tree : τ) :
    partAt? others path (f tree) = (partAt? children path tree).map f := by
  induction path generalizing tree with
  | nil => rfl
  | cons position path ih =>
    rw [partAt?, partAt?, layer, List.getElem?_map]
    cases (children tree)[position]? with
    | none => rfl
    | some child => exact ih child

end Inside

namespace Json

variable {document : Json} {items : List Json}

/-- Induction over documents, with the statement for every item and every member's value. -/
@[elab_as_elim, induction_eliminator]
theorem induction {motive : Json → Prop}
    (null : motive .null)
    (bool : ∀ b, motive (.bool b))
    (num : ∀ n, motive (.num n))
    (str : ∀ s, motive (.str s))
    (arr : ∀ items, (∀ item ∈ items, motive item) → motive (.arr items))
    (obj : ∀ members, (∀ member ∈ members, motive member.2) → motive (.obj members))
    (document : Json) : motive document := by
  refine @Json.rec motive (fun items => ∀ item ∈ items, motive item)
    (fun members => ∀ member ∈ members, motive member.2) (fun member => motive member.2)
    null bool num str arr obj nofun ?items nofun ?members (fun _ _ here => here) document
  case items =>
    intro first rest here there
    exact List.forall_mem_cons.2 ⟨here, there⟩
  case members =>
    intro first rest here there
    exact List.forall_mem_cons.2 ⟨here, there⟩

/-- The parts one layer down: the items of an array, the values of an object's members. -/
def children : Json → List Json
  | .arr items => items
  | .obj members => members.map Prod.snd
  | _ => []

/-! ## Kinds of documents -/

/-- No object stands anywhere in the document. -/
def Objectless (document : Json) : Prop := ∀ members, ¬Inside children (.obj members) document

/-- No integer that stands anywhere in the document is too large for 64 signed bits. -/
def Signed (document : Json) : Prop :=
  ∀ n inRange, Inside children (.num (.whole n inRange)) document → n ≤ Int64.maxValue.toInt

theorem inside_arr {part : Json} :
    Inside children part (.arr items) ↔
      .arr items = part ∨ ∃ item ∈ items, Inside children part item :=
  inside_iff

theorem objectless_arr : Objectless (.arr items) ↔ ∀ item ∈ items, Objectless item := by
  simp only [Objectless, inside_arr, reduceCtorEq, false_or, not_exists, not_and]
  exact ⟨fun none item member members => none members item member,
    fun none members item member => none item member members⟩

theorem not_objectless_obj (members : List (String × Json)) : ¬Objectless (.obj members) :=
  fun none => none members .refl

theorem signed_arr : Signed (.arr items) ↔ ∀ item ∈ items, Signed item := by
  simp only [Signed, inside_arr, reduceCtorEq, false_or, forall_exists_index, and_imp]
  exact ⟨fun all item member n inRange => all n inRange item member,
    fun all n inRange item member => all item member n inRange⟩

theorem objectless_of_leaf (leaf : document.children = [])
    (kind : ∀ members, document ≠ .obj members) : Objectless document :=
  fun members inside => kind members ((inside_of_leaf leaf).1 inside)

theorem signed_of_leaf (leaf : document.children = []) (kind : ∀ n, document ≠ .num n) :
    Signed document :=
  fun n inRange inside => absurd ((inside_of_leaf leaf).1 inside) (kind (.whole n inRange))

theorem signed_num {number : Number}
    (small : ∀ n inRange, number = .whole n inRange → n ≤ Int64.maxValue.toInt) :
    Signed (.num number) := by
  intro n inRange inside
  cases (inside_of_leaf rfl).1 inside
  exact small n inRange rfl

/-! ## Comparison -/

theorem beqItems_map (f : Json → Json) :
    beqItems (items.map f) items = true ↔ ∀ item ∈ items, (f item == item) = true := by
  induction items with
  | nil => simp [beqItems]
  | cons item rest ih =>
    rw [List.map_cons, beqItems, Bool.and_eq_true, ih, List.forall_mem_cons]
    rfl

/-- The doubles of documents are finite, so every document equals itself. -/
theorem beq_self (document : Json) : (document == document) = true := by
  induction document with
  | null => rfl
  | bool b => exact BEq.rfl (a := b)
  | str s => exact BEq.rfl (a := s)
  | num n =>
    cases n with
    | whole n => exact BEq.rfl (a := n)
    | real x finite => exact Double.beq_self finite
  | arr items ih =>
    have each := (beqItems_map id).2 ih
    rwa [List.map_id] at each
  | obj members ih =>
    change beqMembers members members = true
    induction members with
    | nil => rfl
    | cons member rest later =>
      obtain ⟨here, there⟩ := List.forall_mem_cons.1 ih
      rw [beqMembers, Bool.and_eq_true, Bool.and_eq_true]
      exact ⟨⟨BEq.rfl, here⟩, later there⟩

end Json

end TableQuery
