import Mathlib.Data.List.Forall2
import TableQuery.Proofs.Json.Tokens
import TableQuery.Proofs.Outcome

/-!
# Written documents are read back

`Raw.Reads text raw` says that the reader takes the text for the document wherever it stands. Texts
put together by `quote`, `Decimal.writeInt`, `bracketed` and `braced` are read as documents put
together in the same way, and the outermost layer of such a document shows the data that it was
written for. So a printer made of these parts is inverted part by part. `present` lists the members
of an object some of which may be left out, and `structure?_of_present` finds all of them again.
-/

namespace TableQuery.Json

/-! ## Documents -/

namespace Raw

/-- The document of a string. -/
def ofString (text : String) : Raw := .str (piecesOf text)

/-- The document of a natural number. -/
def ofNat (n : Nat) : Raw := .num (.ofNat n)

/-- The document with the given members. -/
def ofMembers (members : List (String × Raw)) : Raw :=
  .obj (members.map fun (key, value) => (piecesOf key, value))

/-- The text is read as the document, whatever stands behind it that a number cannot go on with. It
has no space in front, and no bracket that would end an array. -/
structure Reads (text : String) (raw : Raw) : Prop where
  starts : ∃ c rest, text.toList = c :: rest ∧ isSpace c = false ∧ c ≠ ']'
  reads : ∀ fuel rest, text.toList.length ≤ fuel → EndsNumeral rest →
    readValue? fuel (text.toList ++ rest) = some (raw, rest)

theorem skipSpaces_cons {c : Char} (dark : isSpace c = false) (rest : List Char) :
    skipSpaces (c :: rest) = c :: rest :=
  List.dropWhile_cons_of_neg (by simp [dark])

/-- Every text takes one step at least, which its first character decides. -/
theorem reads_of_cons {text : String} {raw : Raw} {c : Char} {behind : List Char}
    (written : text.toList = c :: behind) (dark : isSpace c = false) (noClose : c ≠ ']')
    (step : ∀ fuel rest, behind.length ≤ fuel → EndsNumeral rest →
      readValue? (fuel + 1) (c :: (behind ++ rest)) = some (raw, rest)) : Reads text raw := by
  refine ⟨⟨c, behind, written, dark, noClose⟩, ?_⟩
  intro fuel rest enough ends
  rw [written] at enough ⊢
  rw [List.length_cons] at enough
  obtain ⟨fuel, rfl⟩ : ∃ n, fuel = n + 1 := ⟨fuel - 1, by omega⟩
  exact step fuel rest (by omega) ends

theorem reads_quote (text : String) : Reads (quote text) (ofString text) := by
  have written : (quote text).toList = '"' :: (text.toList.flatMap escapeChar ++ ['"']) := by
    rw [quote, String.toList_ofList]
    rfl
  refine reads_of_cons written (by decide) (by decide) fun fuel rest _ _ => ?_
  rw [readValue?, skipSpaces_cons (by decide), List.append_assoc]
  simp only [List.singleton_append, readPieces?_quoted]
  rfl

theorem reads_writeInt (n : Nat) : Reads (Decimal.writeInt n) (ofNat n) := by
  obtain ⟨c, behind, first⟩ := List.exists_cons_of_ne_nil (Nat.toDigits_ne_nil (n := n) (b := 10))
  have digit := Decimal.isDigit_toDigits n c (first ▸ List.mem_cons_self)
  have dark : isSpace c = false := by
    simp [isSpace, ne_of_isDigit (d := ' ') digit rfl, ne_of_isDigit (d := '\t') digit rfl,
      ne_of_isDigit (d := '\n') digit rfl, ne_of_isDigit (d := '\r') digit rfl]
  have written := (Decimal.toList_writeInt_natCast n).trans first
  refine reads_of_cons written dark (ne_of_isDigit digit rfl) fun fuel rest _ ends => ?_
  have read := readNumeral?_toDigits n ends
  rw [first, List.cons_append] at read
  -- No digit begins another kind of document.
  rw [readValue?, skipSpaces_cons dark]
  split
  case h_7 =>
    rw [read]
    rfl
  all_goals
    rename_i same
    exact (ne_of_isDigit digit rfl (List.cons.inj same).1).elim

/-! ### Lists of documents -/

/-- Written parts as they stand up to the closing character. -/
def closed (close : Char) (parts : List String) : List Char :=
  (",".intercalate parts).toList ++ [close]

theorem closed_singleton (close : Char) (part : String) :
    closed close [part] = part.toList ++ [close] := by
  rw [closed, String.intercalate_singleton]

theorem closed_cons_cons (close : Char) (part next : String) (parts : List String) :
    closed close (part :: next :: parts) = part.toList ++ ',' :: closed close (next :: parts) := by
  simp only [closed, String.intercalate_cons_cons]
  simp

theorem toList_bracketed (items : List String) :
    (bracketed items).toList = '[' :: closed ']' items := by
  simp [bracketed, closed]

/-- Items that are read one by one are read together. -/
theorem readItems?_closed {texts : List String} {raws : List Raw}
    (each : List.Forall₂ Reads texts raws) (nonempty : texts ≠ []) {fuel : Nat}
    (enough : (closed ']' texts).length ≤ fuel) (rest : List Char) :
    readItems? fuel (closed ']' texts ++ rest) = some (raws, rest) := by
  induction each generalizing fuel with
  | nil => exact (nonempty rfl).elim
  | @cons text raw texts raws first others ih =>
    cases others with
    | nil =>
      rw [closed_singleton, List.length_append, List.length_singleton] at enough
      obtain ⟨fuel, rfl⟩ : ∃ n, fuel = n + 1 := ⟨fuel - 1, by omega⟩
      have close : EndsNumeral (']' :: rest) := endsNumeral_cons (by decide) rest
      rw [closed_singleton, List.append_assoc, List.singleton_append, readItems?,
        first.reads fuel _ (by omega) close]
      rfl
    | @cons next _ texts _ second others =>
      rw [closed_cons_cons, List.length_append, List.length_cons] at enough
      obtain ⟨fuel, rfl⟩ : ∃ n, fuel = n + 1 := ⟨fuel - 1, by omega⟩
      have later := ih (List.cons_ne_nil _ _) (show _ ≤ fuel by omega)
      have comma : EndsNumeral (',' :: (closed ']' (next :: texts) ++ rest)) :=
        endsNumeral_cons (by decide) _
      rw [closed_cons_cons, List.append_assoc, List.cons_append, readItems?,
        first.reads fuel _ (by omega) comma]
      simp only [Option.bind_eq_bind, Option.bind_some, skipSpaces_cons (c := ',') (by decide),
        later]

theorem readValue?_bracket (fuel : Nat) (rest : List Char) :
    readValue? (fuel + 1) ('[' :: rest) = match skipSpaces rest with
      | ']' :: rest => some (.arr [], rest)
      | rest => (readItems? fuel rest).map fun (items, rest) => (.arr items, rest) := by
  rw [readValue?, skipSpaces_cons (by decide)]
  rfl

theorem reads_bracketed {texts : List String} {raws : List Raw}
    (each : List.Forall₂ Reads texts raws) : Reads (bracketed texts) (.arr raws) := by
  refine reads_of_cons (toList_bracketed texts) (by decide) (by decide)
    fun fuel rest inside _ => ?_
  rw [readValue?_bracket]
  cases each with
  | nil => rfl
  | @cons text raw texts raws first others =>
    have items := readItems?_closed (.cons first others) (List.cons_ne_nil _ _) inside rest
    obtain ⟨c, behind, front, dark, noClose⟩ := first.starts
    obtain ⟨tail, starts⟩ : ∃ tail, closed ']' (text :: texts) ++ rest = c :: tail := by
      cases texts with
      | nil => exact ⟨_, by rw [closed_singleton, front]; rfl⟩
      | cons next texts => exact ⟨_, by rw [closed_cons_cons, front]; rfl⟩
    rw [starts] at items ⊢
    rw [skipSpaces_cons dark]
    split
    · rename_i same
      exact (noClose (List.cons.inj same).1).elim
    · rw [items]
      rfl

/-! ### Members -/

/-- A member as it is written. -/
def writtenMember (member : String × String) : String := quote member.1 ++ ":" ++ member.2

theorem toList_writtenMember (key text : String) : (writtenMember (key, text)).toList =
    '"' :: (key.toList.flatMap escapeChar ++ '"' :: ':' :: text.toList) := by
  simp [writtenMember, quote]

theorem toList_braced (members : List (String × String)) :
    (braced members).toList = '\x7b' :: closed '\x7d' (members.map writtenMember) := by
  change ("\x7b" ++ ",".intercalate (members.map writtenMember) ++ "\x7d").toList = _
  simp [closed]

/-- The text of a member is read as one with the same key. -/
def ReadsMember (written : String × String) (read : String × Raw) : Prop :=
  written.1 = read.1 ∧ Reads written.2 read.2

/-- A member is read as far as its value; what stands behind it says whether others follow. -/
theorem readMembers?_writtenMember {key text : String} {value : Raw} (reads : Reads text value)
    {fuel : Nat} {rest : List Char} {result : Option (List (List Piece × Raw) × List Char)}
    (enough : text.toList.length ≤ fuel) (ends : EndsNumeral rest)
    (continues : (match skipSpaces rest with
      | '\x7d' :: rest => some ([(piecesOf key, value)], rest)
      | ',' :: rest => (readMembers? fuel rest).bind fun (members, rest) =>
        some ((piecesOf key, value) :: members, rest)
      | _ => none) = result) :
    readMembers? (fuel + 1) ((writtenMember (key, text)).toList ++ rest) = result := by
  rw [toList_writtenMember, List.cons_append, List.append_assoc, List.cons_append,
    List.cons_append, readMembers?, skipSpaces_cons (by decide)]
  simp only [readPieces?_quoted, Option.bind_eq_bind, Option.bind_some,
    skipSpaces_cons (c := ':') (by decide), reads.reads fuel rest enough ends]
  exact continues

/-- Members that are read one by one are read together. -/
theorem readMembers?_closed {members : List (String × String)} {raws : List (String × Raw)}
    (each : List.Forall₂ ReadsMember members raws) (nonempty : members ≠ []) {fuel : Nat}
    (enough : (closed '\x7d' (members.map writtenMember)).length ≤ fuel) (rest : List Char) :
    readMembers? fuel (closed '\x7d' (members.map writtenMember) ++ rest) =
      some (raws.map fun (key, value) => (piecesOf key, value), rest) := by
  induction each generalizing fuel with
  | nil => exact (nonempty rfl).elim
  | @cons member raw members raws first others ih =>
    obtain ⟨key, text⟩ := member
    obtain ⟨name, value⟩ := raw
    have same : key = name := first.1
    have reads : Reads text value := first.2
    subst same
    have length : text.toList.length < (writtenMember (key, text)).toList.length := by
      simp only [toList_writtenMember, List.length_cons, List.length_append]
      omega
    cases others with
    | nil =>
      rw [List.map_singleton, closed_singleton, List.length_append] at enough
      obtain ⟨fuel, rfl⟩ : ∃ n, fuel = n + 1 := ⟨fuel - 1, by omega⟩
      have close : EndsNumeral ('\x7d' :: rest) := endsNumeral_cons (by decide) rest
      rw [List.map_singleton, closed_singleton, List.append_assoc, List.singleton_append]
      refine readMembers?_writtenMember reads (by omega) close ?_
      simp only [skipSpaces_cons (c := '\x7d') (by decide), List.map_cons, List.map_nil]
    | @cons next _ members _ second others =>
      rw [List.map_cons, List.map_cons, closed_cons_cons, List.length_append, List.length_cons,
        ← List.map_cons] at enough
      obtain ⟨fuel, rfl⟩ : ∃ n, fuel = n + 1 := ⟨fuel - 1, by omega⟩
      have later := ih (List.cons_ne_nil _ _) (show _ ≤ fuel by omega)
      have comma : EndsNumeral
          (',' :: (closed '\x7d' ((next :: members).map writtenMember) ++ rest)) :=
        endsNumeral_cons (by decide) _
      rw [List.map_cons, List.map_cons, closed_cons_cons, ← List.map_cons, List.append_assoc,
        List.cons_append]
      refine readMembers?_writtenMember reads (by omega) comma ?_
      simp only [skipSpaces_cons (c := ',') (by decide), later, Option.bind_some]
      rfl

theorem readValue?_brace (fuel : Nat) (rest : List Char) :
    readValue? (fuel + 1) ('\x7b' :: rest) = match skipSpaces rest with
      | '\x7d' :: rest => some (.obj [], rest)
      | rest => (readMembers? fuel rest).map fun (members, rest) => (.obj members, rest) := by
  rw [readValue?, skipSpaces_cons (by decide)]
  rfl

theorem reads_braced {members : List (String × String)} {raws : List (String × Raw)}
    (each : List.Forall₂ ReadsMember members raws) : Reads (braced members) (ofMembers raws) := by
  refine reads_of_cons (toList_braced members) (by decide) (by decide)
    fun fuel rest inside _ => ?_
  rw [readValue?_brace]
  cases each with
  | nil => rfl
  | @cons member raw members raws first others =>
    have read := readMembers?_closed (.cons first others) (List.cons_ne_nil _ _) inside rest
    obtain ⟨tail, starts⟩ :
        ∃ tail, closed '\x7d' ((member :: members).map writtenMember) ++ rest = '"' :: tail := by
      cases members with
      | nil => exact ⟨_, by rw [List.map_singleton, closed_singleton, toList_writtenMember]; rfl⟩
      | cons next members =>
        exact ⟨_, by rw [List.map_cons, List.map_cons, closed_cons_cons, toList_writtenMember]; rfl⟩
    rw [starts] at read ⊢
    rw [skipSpaces_cons (by decide)]
    split
    · rename_i same
      cases same
    · rw [read]
      rfl

/-- A text that is read as a document wherever it stands is one. -/
theorem Reads.read? {text : String} {raw : Raw} (reads : Reads text raw) :
    Raw.read? text = some raw := by
  have read := reads.reads (2 * text.toList.length + 2) [] (by omega) endsNumeral_nil
  rw [List.append_nil] at read
  rw [Raw.read?, read]
  rfl

/-! ## Layers -/

theorem layer?_ofString (text : String) (depth : Nat) :
    layer? (Within.mk (ofString text) depth) = some (.str text) := by
  change Within.layer? ⟨.str (piecesOf text), depth⟩ = _
  rw [Within.layer?, text?_piecesOf, Option.map_some]

theorem layer?_ofNat (n : UInt64) (depth : Nat) :
    layer? (Within.mk (ofNat n.toNat) depth) = some (.num (.ofUInt64 n)) := by
  change Within.layer? ⟨.num (.ofNat n.toNat), depth⟩ = _
  rw [Within.layer?, number?_ofNat, Option.map_some]

theorem layer?_ofMembers (members : List (String × Raw)) (depth : Nat) :
    layer? (Within.mk (ofMembers members) (depth + 1)) =
      some (.obj (members.map fun member => (member.1, ⟨member.2, depth⟩))) := by
  have named : namedMembers? depth (members.map fun (key, value) => (piecesOf key, value)) =
      some (members.map fun member => (member.1, ⟨member.2, depth⟩)) := by
    induction members with
    | nil => rfl
    | cons member members ih =>
      rw [List.map_cons, namedMembers?, text?_piecesOf, ih]
      rfl
  change Within.layer? ⟨.obj (members.map fun (key, value) => (piecesOf key, value)), depth + 1⟩ = _
  rw [Within.layer?, named, Option.map_some]

end Raw

/-! ## Plain data -/

theorem string?_ofString (text : String) (depth : Nat) :
    string? (Raw.Within.mk (.ofString text) depth) = some text := by
  rw [string?, Raw.layer?_ofString]

theorem uint64?_ofNat (n : UInt64) (depth : Nat) :
    uint64? (Raw.Within.mk (.ofNat n.toNat) depth) = some n := by
  rw [uint64?, Raw.layer?_ofNat]
  exact Number.toUInt64?_ofUInt64 n

section Typed

variable {α : Type} {read? : Raw.Within → Option α} {raw : α → Raw} {depth : Nat}

/-- Items that are read back one by one are read back together. -/
theorem list?_written (reads : ∀ a, read? ⟨raw a, depth⟩ = some a) (items : List α) :
    list? read? ⟨.arr (items.map raw), depth + 1⟩ = some items := by
  have layer : layer? (Raw.Within.mk (.arr (items.map raw)) (depth + 1)) =
      some (.arr (items.map fun a => ⟨raw a, depth⟩)) := by
    change some (Layer.arr ((items.map raw).map (Raw.Within.mk · depth))) = _
    rw [List.map_map]
    rfl
  have back : read? ∘ (fun a => ⟨raw a, depth⟩) = fun a => pure (id a) := funext reads
  rw [list?, layer]
  dsimp only
  rw [List.mapM_map, back, List.mapM_pure, List.map_id]
  rfl

/-- A member that may be missing is read back if it never looks like null. -/
theorem optional?_written (reads : ∀ a, read? ⟨raw a, depth⟩ = some a)
    (solid : ∀ a, layer? (Raw.Within.mk (raw a) depth) ≠ some .null) (part : Option α) :
    optional? read? ((part.map raw).map (Raw.Within.mk · depth)) = some part := by
  cases part with
  | none => rfl
  | some a =>
    rw [Option.map_some, Option.map_some, optional?, nullable?]
    split
    · rename_i null
      exact (solid a null).elim
    · rw [reads, Option.map_some]

end Typed

/-! ## Structures -/

/-- The members that are there, of a list of names with or without a part. -/
def present {σ : Type} (named : List (String × Option σ)) : List (String × σ) :=
  named.filterMap fun entry => entry.2.map (entry.1, ·)

section Present

variable {σ τ : Type}

theorem present_cons (name : String) (part : Option σ) (named : List (String × Option σ)) :
    present ((name, part) :: named) = (part.map (name, ·)).toList ++ present named := by
  cases part <;> rfl

theorem present_map (f : σ → τ) (named : List (String × Option σ)) :
    (present named).map (fun member => (member.1, f member.2)) =
      present (named.map fun entry => (entry.1, entry.2.map f)) := by
  induction named with
  | nil => rfl
  | cons entry named ih =>
    obtain ⟨name, part⟩ := entry
    rw [List.map_cons, present_cons, present_cons, List.map_append, ih]
    cases part <;> rfl

/-- The keys that are there are those of the names that have a part. -/
theorem map_fst_present (named : List (String × Option σ)) :
    (present named).map Prod.fst = (named.filter (·.2.isSome)).map Prod.fst := by
  induction named with
  | nil => rfl
  | cons entry named ih =>
    obtain ⟨name, _ | part⟩ := entry
    · simpa [present_cons] using ih
    · simpa [present_cons] using ih

theorem filter_present {named : List (String × Option σ)} (distinct : (named.map Prod.fst).Nodup)
    {entry : String × Option σ} (member : entry ∈ named) :
    (present named).filter (·.1 == entry.1) = (entry.2.map (entry.1, ·)).toList := by
  have missing : ∀ {others : List (String × Option σ)} {name : String},
      name ∉ others.map Prod.fst → (present others).filter (·.1 == name) = [] := by
    intro others name absent
    rw [List.filter_eq_nil_iff]
    intro found inside same
    have key : found.1 ∈ (present others).map Prod.fst := List.mem_map_of_mem inside
    rw [map_fst_present, eq_of_beq same] at key
    exact absent (List.map_subset _ (List.filter_sublist).subset key)
  induction named with
  | nil => cases member
  | cons first named ih =>
    obtain ⟨name, part⟩ := first
    obtain ⟨fresh, distinct⟩ := List.nodup_cons.1 distinct
    rw [present_cons, List.filter_append]
    rcases List.mem_cons.1 member with rfl | later
    · rw [missing fresh, List.append_nil]
      cases part <;> simp
    · have other : name ≠ entry.1 := by
        intro same
        have known : entry.1 ∈ named.map Prod.fst := List.mem_map_of_mem later
        exact fresh (same ▸ known)
      rw [ih distinct later]
      cases part <;> simp [other]

theorem reads_part {α : Type} {written : α → String} {read : α → Raw}
    (reads : ∀ a, Raw.Reads (written a) (read a)) (part : Option α) :
    Option.Rel Raw.Reads (part.map written) (part.map read) := by
  cases part with
  | none => exact .none
  | some a => exact .some (reads a)

/-- Parts that are read one by one are read together. -/
theorem reads_present {written : List (String × Option String)} {raws : List (String × Option Raw)}
    (each : List.Forall₂ (fun part raw => part.1 = raw.1 ∧ Option.Rel Raw.Reads part.2 raw.2)
      written raws) : Raw.Reads (braced (present written)) (Raw.ofMembers (present raws)) := by
  refine Raw.reads_braced (List.rel_filterMap ?_ each)
  intro part raw related
  obtain ⟨name, text⟩ := part
  obtain ⟨key, value⟩ := raw
  obtain ⟨same, reads⟩ := related
  cases reads with
  | none => exact .none
  | some reads => exact .some ⟨same, reads⟩

/-- Every part of an object is found under its name, and no other. -/
theorem structure?_of_present [Layered σ] {source : σ} {named : List (String × Option σ)}
    (distinct : (named.map Prod.fst).Nodup) (shows : layer? source = some (.obj (present named)))
    (least : Nat) : structure? (named.map Prod.fst) least source = some (named.map Prod.snd) := by
  rw [structure?, shows]
  dsimp only
  rw [List.mapM_map]
  refine (mapM_congr (g := fun entry => pure entry.2) ?_).trans List.mapM_pure
  intro entry member
  rw [Function.comp_apply, filter_present distinct member]
  cases entry.2 <;> rfl

/-- The layer below the object of parts that may be missing. -/
theorem structure?_ofMembers (named : List (String × Option Raw))
    (distinct : (named.map Prod.fst).Nodup) (least depth : Nat) :
    structure? (named.map Prod.fst) least ⟨Raw.ofMembers (present named), depth + 1⟩ =
      some (named.map fun entry => entry.2.map (Raw.Within.mk · depth)) := by
  have names : (named.map fun entry => (entry.1, entry.2.map (Raw.Within.mk · depth))).map
      Prod.fst = named.map Prod.fst := by
    rw [List.map_map]
    rfl
  have shows := Raw.layer?_ofMembers (present named) depth
  rw [present_map (Raw.Within.mk · depth)] at shows
  have found := structure?_of_present (names ▸ distinct) shows least
  rw [names, List.map_map] at found
  exact found

end Present

end TableQuery.Json
