import Mathlib.Data.List.Forall2

/-!
# Outcomes

What is known of the steps of a computation that ends without an error, and which step the error of
a computation comes from.
-/

namespace TableQuery

variable {ε α β : Type}

theorem bind_eq_ok {x : Except ε α} {f : α → Except ε β} {b : β} :
    x >>= f = .ok b ↔ ∃ a, x = .ok a ∧ f a = .ok b := by
  cases x <;> simp [bind, Except.bind]

theorem map_eq_ok {x : Except ε α} {f : α → β} {b : β} :
    x.map f = .ok b ↔ ∃ a, x = .ok a ∧ f a = b := by
  cases x <;> simp [Except.map]

theorem mapError_eq_ok {ε' : Type} {x : Except ε α} {f : ε → ε'} {a : α} :
    x.mapError f = .ok a ↔ x = .ok a := by
  cases x <;> simp [Except.mapError]

/-- Every item gives its own result. -/
theorem mapM_eq_ok {f : α → Except ε β} {items : List α} {results : List β} :
    items.mapM f = .ok results ↔ List.Forall₂ (fun a b => f a = .ok b) items results := by
  induction items generalizing results with
  | nil =>
    rw [List.mapM_nil, List.forall₂_nil_left_iff]
    exact ⟨fun same => (Except.ok.inj same).symm, fun same => same ▸ rfl⟩
  | cons a items ih =>
    rw [List.mapM_cons, bind_eq_ok, List.forall₂_cons_left_iff]
    constructor
    · rintro ⟨b, first, tail⟩
      obtain ⟨others, rest, same⟩ := bind_eq_ok.1 tail
      cases same
      exact ⟨b, others, first, ih.1 rest, rfl⟩
    · rintro ⟨b, others, first, rest, rfl⟩
      exact ⟨b, first, bind_eq_ok.2 ⟨others, ih.2 rest, rfl⟩⟩

/-- Where an item can only give one result, the results are known. -/
theorem eq_map_of_mapM {f : α → Except ε β} {g : α → β} (only : ∀ a b, f a = .ok b → b = g a)
    {items : List α} {results : List β} (gives : items.mapM f = .ok results) :
    results = items.map g := by
  have same : List.Forall₂ Eq results (items.map g) :=
    List.forall₂_map_right_iff.2 ((mapM_eq_ok.1 gives).imp only).flip
  rwa [List.forall₂_eq_eq_eq] at same

theorem mapM_congr {m : Type → Type} [Monad m] [LawfulMonad m] {f g : α → m β} {items : List α}
    (same : ∀ a ∈ items, f a = g a) : items.mapM f = items.mapM g := by
  induction items with
  | nil => rfl
  | cons a items ih =>
    rw [List.mapM_cons, List.mapM_cons, same a List.mem_cons_self,
      ih fun b member => same b (List.mem_cons_of_mem _ member)]

theorem mapM_append_of_ok {f : α → Except ε β} {items : List α} {results : List β}
    (made : items.mapM f = .ok results) (others : List α) :
    (items ++ others).mapM f = (others.mapM f).map (results ++ ·) := by
  rw [List.mapM_append, made]
  cases others.mapM f <;> rfl

theorem mapM_append_of_error {f : α → Except ε β} {items : List α} {e : ε}
    (fails : items.mapM f = .error e) (others : List α) : (items ++ others).mapM f = .error e := by
  rw [List.mapM_append, fails]
  rfl

/-- Results can be changed one by one or all together. -/
theorem mapM_map {γ : Type} (f : α → Except ε β) (g : β → γ) (items : List α) :
    (items.mapM fun a => (f a).map g) = (items.mapM f).map (List.map g) := by
  induction items with
  | nil => rfl
  | cons a items ih =>
    rw [List.mapM_cons, List.mapM_cons, ih]
    rcases f a with e | b
    · rfl
    · cases items.mapM f <;> rfl

/-! ## Items and their results -/

variable {R : α → β → Prop} {items : List α} {results : List β}

theorem exists_of_mem_right (related : List.Forall₂ R items results) {b : β}
    (member : b ∈ results) : ∃ a ∈ items, R a b := by
  induction related with
  | nil => cases member
  | cons first _ ih =>
    rcases List.mem_cons.1 member with rfl | later
    · exact ⟨_, List.mem_cons_self, first⟩
    · obtain ⟨a, inside, related⟩ := ih later
      exact ⟨a, List.mem_cons_of_mem _ inside, related⟩

/-- What holds of every item holds of every result, if it does so one by one. -/
theorem forall_iff_of_forall₂ {p : α → Prop} {q : β → Prop}
    (related : List.Forall₂ R items results)
    (agree : ∀ a ∈ items, ∀ b, R a b → (p a ↔ q b)) :
    (∀ a ∈ items, p a) ↔ ∀ b ∈ results, q b := by
  induction related with
  | nil => simp
  | @cons a b items results first _ ih =>
    have here := agree a List.mem_cons_self b first
    have later := ih fun a member => agree a (List.mem_cons_of_mem _ member)
    simp only [List.forall_mem_cons, here, later]

theorem exists_iff_of_forall₂ {p : α → Prop} {q : β → Prop}
    (related : List.Forall₂ R items results)
    (agree : ∀ a ∈ items, ∀ b, R a b → (p a ↔ q b)) :
    (∃ a ∈ items, p a) ↔ ∃ b ∈ results, q b := by
  have negated := forall_iff_of_forall₂ (p := fun a => ¬p a) (q := fun b => ¬q b) related
    fun a member b here => not_congr (agree a member b here)
  simpa using not_congr negated

/-! ## Results alone -/

theorem toOption_eq_some {x : Except ε α} {a : α} : x.toOption = some a ↔ x = .ok a := by
  cases x <;> simp [Except.toOption]

theorem toOption_bind (x : Except ε α) (f : α → Except ε β) :
    (x >>= f).toOption = x.toOption.bind fun a => (f a).toOption := by
  cases x <;> rfl

theorem toOption_map (x : Except ε α) (f : α → β) : (x.map f).toOption = x.toOption.map f := by
  cases x <;> rfl

theorem toOption_mapError {ε' : Type} (x : Except ε α) (f : ε → ε') :
    (x.mapError f).toOption = x.toOption := by
  cases x <;> rfl

theorem toOption_mapM (f : α → Except ε β) (items : List α) :
    (items.mapM f).toOption = items.mapM fun a => (f a).toOption := by
  induction items with
  | nil => rfl
  | cons a items ih =>
    rw [List.mapM_cons, List.mapM_cons, toOption_bind]
    refine congrArg _ (funext fun b => ?_)
    rw [toOption_bind, ih]
    rfl

/-! ## Errors -/

/-- The error of a computation that fails. -/
def errorOf? : Except ε α → Option ε
  | .error e => some e
  | .ok _ => none

theorem errorOf?_eq_some {x : Except ε α} {e : ε} : errorOf? x = some e ↔ x = .error e := by
  cases x <;> simp [errorOf?]

theorem errorOf?_eq_none {x : Except ε α} : errorOf? x = none ↔ ∃ a, x = .ok a := by
  cases x <;> simp [errorOf?]

theorem errorOf?_map (x : Except ε α) (f : α → β) : errorOf? (x.map f) = errorOf? x := by
  cases x <;> rfl

theorem errorOf?_bind_pure (x : Except ε α) (f : α → β) :
    errorOf? (x >>= fun a => pure (f a)) = errorOf? x := by
  cases x <;> rfl

/-- The error of a first step comes before that of the next one, if what goes wrong there does not
depend on the result in between. -/
theorem errorOf?_bind {x : Except ε α} {f : α → Except ε β} {later : Option ε}
    (continues : ∀ a, x = .ok a → errorOf? (f a) = later) :
    errorOf? (x >>= f) = (errorOf? x).or later := by
  cases x with
  | error e => rfl
  | ok a => exact continues a rfl

theorem findSome?_cons_or (f : α → Option β) (a : α) (items : List α) :
    (a :: items).findSome? f = (f a).or (items.findSome? f) := by
  rw [List.findSome?_cons]
  cases f a <;> rfl

theorem errorOf?_mapM (f : α → Except ε β) (items : List α) :
    errorOf? (items.mapM f) = items.findSome? fun a => errorOf? (f a) := by
  induction items with
  | nil => rfl
  | cons a items ih =>
    rw [List.mapM_cons, findSome?_cons_or]
    refine errorOf?_bind fun b _ => ?_
    rw [errorOf?_bind_pure, ih]

/-- The first item without a result is the one whose error is reported. -/
theorem mapM_eq_error {f : α → Except ε β} {items : List α} {e : ε} :
    items.mapM f = .error e ↔ ∃ before bad behind, items = before ++ bad :: behind ∧
      (∀ a ∈ before, ∃ b, f a = .ok b) ∧ f bad = .error e := by
  rw [← errorOf?_eq_some, errorOf?_mapM, List.findSome?_eq_some_iff]
  simp only [errorOf?_eq_some, errorOf?_eq_none]
  constructor
  · rintro ⟨before, bad, behind, cut, fault, earlier⟩
    exact ⟨before, bad, behind, cut, earlier, fault⟩
  · rintro ⟨before, bad, behind, cut, earlier, fault⟩
    exact ⟨before, bad, behind, cut, fault, earlier⟩

end TableQuery
