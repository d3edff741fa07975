import Mathlib.Logic.Function.Basic
import TableQuery.Proofs.Formula.Reader

/-!
# Escaped texts end at their own quote

A text between quotes is over at the first single quote that no backslash stands before. `bare` lists
the characters of a text that no backslash stands before, so a text is over somewhere exactly if it
has a bare quote: `readQuoted?_eq_none_iff`. No quote and no backslash of an escaped text is bare.
So the text is over at the quote that is written behind it and nowhere else, whatever follows, and it
is read as it was before it was escaped: `escapeText_read_back`.
-/

namespace TableQuery.Formula

/-! ## Bare characters -/

/-- The characters that no backslash stands before. A backslash that stands before another character
goes with it. -/
def bare : List Char → List Char
  | [] => []
  | '\\' :: _ :: rest => bare rest
  | c :: rest => c :: bare rest

theorem bare_cons_of_ne {c : Char} (noBackslash : c ≠ '\\') (rest : List Char) :
    bare (c :: rest) = c :: bare rest :=
  bare.eq_3 c rest fun _ _ same _ => noBackslash same

/-- Just the characters that need no backslash are bare in an escaped text. -/
theorem bare_escape (text : List Char) :
    bare (escape text) = text.filter fun c => !isEscaped c := by
  induction text with
  | nil => rfl
  | cons c text ih =>
    cases escaped : isEscaped c with
    | true => rw [escape, if_pos escaped, bare, ih, List.filter_cons_of_neg (by simp [escaped])]
    | false =>
      have noBackslash : c ≠ '\\' := by
        intro same
        rw [same] at escaped
        cases escaped
      rw [escape, if_neg (by simp [escaped]), bare_cons_of_ne noBackslash, ih,
        List.filter_cons_of_pos (by simp [escaped])]

/-- An escaped text has no bare quote of either kind, and no backslash that the character behind the
text could be taken with. -/
theorem ne_of_mem_bare_escape {text : List Char} {c : Char} (member : c ∈ bare (escape text)) :
    c ≠ '\'' ∧ c ≠ '"' ∧ c ≠ '\\' := by
  rw [bare_escape] at member
  simpa [isEscaped, and_assoc] using (List.mem_filter.1 member).2

/-! ## Where texts are over -/

/-- Induction over a text as it is read between quotes. -/
theorem quoted_induction {motive : List Char → Prop} (nil : motive [])
    (quote : ∀ rest, motive ('\'' :: rest))
    (pair : ∀ c rest, motive rest → motive ('\\' :: c :: rest)) (lone : motive ['\\'])
    (plain : ∀ c rest, c ≠ '\'' → c ≠ '\\' → motive rest → motive (c :: rest))
    (cs : List Char) : motive cs := by
  induction cs using readQuoted?.induct with
  | case1 => exact nil
  | case2 rest => exact quote rest
  | case3 c rest ih => exact pair c rest ih
  | case4 => exact lone
  | case5 c rest noQuote noPair noEnd ih =>
    refine plain c rest noQuote ?_ ih
    intro backslash
    rcases rest with _ | ⟨next, rest⟩
    · exact noEnd backslash rfl
    · exact noPair next rest backslash rfl

/-- A text is over somewhere exactly if one of its single quotes is bare. -/
theorem readQuoted?_eq_none_iff {cs : List Char} : readQuoted? cs = none ↔ '\'' ∉ bare cs := by
  induction cs using quoted_induction with
  | nil => simp [readQuoted?, bare]
  | quote rest => simp [readQuoted?, bare]
  | pair c rest ih => simp [readQuoted?, bare, ih]
  | lone => simp [readQuoted?, bare]
  | plain c rest noQuote noBackslash ih =>
    rw [readQuoted?_cons_of_ne noQuote noBackslash, bare_cons_of_ne noBackslash,
      Option.map_eq_none_iff, ih, List.mem_cons, not_or]
    exact ⟨fun rest => ⟨noQuote.symm, rest⟩, And.right⟩

/-- What stands behind the quote that a text is over at is left as it is. -/
theorem readQuoted?_append {cs text rest : List Char} (read : readQuoted? cs = some (text, rest))
    (more : List Char) : readQuoted? (cs ++ more) = some (text, rest ++ more) := by
  induction cs using quoted_induction generalizing text with
  | nil => cases read
  | quote behind =>
    cases read
    rfl
  | pair c behind ih =>
    obtain ⟨⟨others, left⟩, later, same⟩ := Option.map_eq_some_iff.1 read
    cases same
    rw [List.cons_append, List.cons_append, readQuoted?, ih later]
    rfl
  | lone => cases read
  | plain c behind noQuote noBackslash ih =>
    rw [readQuoted?_cons_of_ne noQuote noBackslash] at read
    obtain ⟨⟨others, left⟩, later, same⟩ := Option.map_eq_some_iff.1 read
    cases same
    rw [List.cons_append, readQuoted?_cons_of_ne noQuote noBackslash, ih later]
    rfl

/-- An escaped text is not over before the quote that is written behind it. -/
theorem readQuoted?_of_prefix {text front : List Char} (before : front <+: escape text) :
    readQuoted? front = none := by
  obtain ⟨behind, whole⟩ := before
  have unclosed : readQuoted? (escape text) = none := by
    rw [readQuoted?_eq_none_iff]
    intro quote
    exact (ne_of_mem_bare_escape quote).1 rfl
  cases read : readQuoted? front with
  | none => rfl
  | some found =>
    rw [← whole, readQuoted?_append read] at unclosed
    cases unclosed

/-! ## Texts of literals -/

theorem toList_quoted (text rest : String) :
    (escapeText text ++ "'" ++ rest).toList = escape text.toList ++ '\'' :: rest.toList := by
  simp [escapeText]

theorem readQuoted?_escapeText (text rest : String) :
    readQuoted? (escapeText text ++ "'" ++ rest).toList = some (text.toList, rest.toList) := by
  rw [toList_quoted, readQuoted?_escape]

/-- The quote behind an escaped text can be found, so the text and what follows can be told apart. -/
theorem eq_of_escapeText_append {text other rest behind : String}
    (same : escapeText text ++ "'" ++ rest = escapeText other ++ "'" ++ behind) :
    text = other ∧ rest = behind := by
  have read := readQuoted?_escapeText text rest
  rw [same, readQuoted?_escapeText] at read
  obtain ⟨texts, left⟩ := Prod.mk.inj (Option.some.inj read)
  exact ⟨String.toList_inj.1 texts.symm, String.toList_inj.1 left.symm⟩

theorem readLiteral?_text (text rest : String) :
    readLiteral? ((Literal.text text).render ++ rest).toList =
      some (.text text, rest.toList) := by
  have quoted : ((Literal.text text).render ++ rest).toList =
      '\'' :: (escapeText text ++ "'" ++ rest).toList := by
    simp [Literal.render]
  rw [quoted, readLiteral?, readQuoted?_escapeText]
  simp

/-- A text is read back from its escaped form, whatever stands behind the quote that ends it, and
what stands there is left. The text does not end before this quote. No quote of either kind and no
backslash is left without a backslash before it. So texts with the same escaped form are the same,
also if different things are written behind them. Joined texts are escaped one by one. -/
theorem escapeText_read_back :
    (∀ text rest : String,
      readQuoted? (escapeText text ++ "'" ++ rest).toList = some (text.toList, rest.toList) ∧
      readLiteral? ((Literal.text text).render ++ rest).toList = some (.text text, rest.toList)) ∧
    (∀ text front, front <+: (escapeText text).toList → readQuoted? front = none) ∧
    (∀ text, ∀ c ∈ bare (escapeText text).toList, c ≠ '\'' ∧ c ≠ '"' ∧ c ≠ '\\') ∧
    (∀ text other rest behind,
      escapeText text ++ "'" ++ rest = escapeText other ++ "'" ++ behind →
      text = other ∧ rest = behind) ∧
    Function.Injective escapeText ∧
    ∀ text other, escapeText (text ++ other) = escapeText text ++ escapeText other := by
  have plainly (text : String) : (escapeText text).toList = escape text.toList :=
    String.toList_ofList
  refine ⟨?_, ?_, ?_, ?_, ?_, ?_⟩
  · intro text rest
    exact ⟨readQuoted?_escapeText text rest, readLiteral?_text text rest⟩
  · intro text front before
    rw [plainly] at before
    exact readQuoted?_of_prefix before
  · intro text c member
    rw [plainly] at member
    exact ne_of_mem_bare_escape member
  · intro text other rest behind same
    exact eq_of_escapeText_append same
  · intro text other same
    have quoted : escapeText text ++ "'" ++ "" = escapeText other ++ "'" ++ "" := by
      rw [same]
    exact (eq_of_escapeText_append quoted).1
  · intro text other
    rw [escapeText, String.toList_append, escape_append, String.ofList_append]
    rfl

/-- A text that has been escaped before and ends in backslashes: the quote in it ends nothing, and
the literal behind it stays outside. -/
theorem escapeText_read_back_of_backslashes :
    let text := "O\\'Reilly \"C:\\\\"
    let rest := ", 'x')"
    let front := "O\\\\\\'Reil"
    readQuoted? (escapeText text ++ "'" ++ rest).toList = some (text.toList, rest.toList) ∧
      readQuoted? front.toList = none ∧
      (' ' ∈ bare (escapeText text).toList ∧ ' ' ≠ '\\') ∧
      (escapeText text ++ "'" ++ rest = escapeText ("O\\'" ++ "Reilly \"C:\\\\") ++ "'" ++ rest ∧
        text = "O\\'" ++ "Reilly \"C:\\\\") := by
  intro text rest front
  obtain ⟨reads, unclosed, escaped, apart, _, _⟩ := escapeText_read_back
  have before : front.toList <+: (escapeText text).toList := by decide +kernel
  have space : ' ' ∈ bare (escapeText text).toList := by decide +kernel
  have same : escapeText text ++ "'" ++ rest =
      escapeText ("O\\'" ++ "Reilly \"C:\\\\") ++ "'" ++ rest := rfl
  exact ⟨(reads text rest).1, unclosed text _ before, ⟨space, (escaped text _ space).2.2⟩, same,
    (apart _ _ _ _ same).1⟩

end TableQuery.Formula
