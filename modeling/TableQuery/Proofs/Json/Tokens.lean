import Mathlib.Data.List.Basic
import TableQuery.Json.Layer
import TableQuery.Json.Printer

/-!
# Written strings and numbers are read back

A quoted text is read as pieces, one for each character, which make the text again, whatever its
characters are. The digits of a natural number are read as a numeral that stands for the number,
as long as nothing follows that could belong to it.
-/

namespace TableQuery.Json

open Decimal (isDigit_toDigits)

/-! ## Strings -/

/-- The piece as which a character is read back: a control character without a letter of its own is
one unit. -/
def pieceOf (c : Char) : Piece :=
  match c with
  | '\x08' => .char c
  | '\x0c' => .char c
  | '\n' => .char c
  | '\r' => .char c
  | '\t' => .char c
  | c => if c.toNat < 0x20 then .unit c.toNat else .char c

/-- The pieces as which a text is read back. -/
def piecesOf (text : String) : List Piece := text.toList.map pieceOf

section Pieces

variable {c : Char}

theorem readPieces?_letter {letter : Char} (letters : unescape? letter = some c)
    (rest : List Char) :
    readPieces? ('\\' :: letter :: rest) =
      (readPieces? rest).map fun (pieces, rest) => (.char c :: pieces, rest) := by
  have noUnit : letter ≠ 'u' := by
    intro same
    rw [same] at letters
    cases letters
  rw [readPieces?.eq_4 _ _ fun _ _ _ _ _ same _ => noUnit same, letters]
  cases readPieces? rest <;> rfl

theorem readPieces?_plain (noQuote : c ≠ '"') (noBackslash : c ≠ '\\') (printable : ¬c.toNat < 0x20)
    (rest : List Char) :
    readPieces? (c :: rest) =
      (readPieces? rest).map fun (pieces, rest) => (.char c :: pieces, rest) := by
  have plain : ¬(c = '\\' ∨ c.toNat < 0x20) := not_or.2 ⟨noBackslash, printable⟩
  rw [readPieces?.eq_5 _ _ noQuote (fun _ _ _ _ _ same _ => noBackslash same)
    (fun _ _ same _ => noBackslash same), if_neg plain]
  cases readPieces? rest <;> rfl

theorem hexValue?_hexDigit : ∀ n < 16, hexValue? (hexDigit n) = some n := by
  decide

theorem readPieces?_control (control : c.toNat < 0x20) (rest : List Char) :
    readPieces? (['\\', 'u', '0', '0', hexDigit (c.toNat / 16), hexDigit (c.toNat % 16)] ++ rest) =
      (readPieces? rest).map fun (pieces, rest) => (.unit c.toNat :: pieces, rest) := by
  have unit : unit? '0' '0' (hexDigit (c.toNat / 16)) (hexDigit (c.toNat % 16)) =
      some c.toNat := by
    have zero : hexValue? '0' = some 0 := by decide
    have high := hexValue?_hexDigit (c.toNat / 16) (by omega)
    have low := hexValue?_hexDigit (c.toNat % 16) (by omega)
    have sum : ((0 * 16 + 0) * 16 + c.toNat / 16) * 16 + c.toNat % 16 = c.toNat := by omega
    simp only [unit?, zero, high, low, Option.bind_eq_bind, Option.bind_some, sum]
  simp only [List.cons_append, List.nil_append]
  rw [readPieces?.eq_3, unit]
  cases readPieces? rest <;> rfl

theorem readPieces?_escapeChar (c : Char) (rest : List Char) :
    readPieces? (escapeChar c ++ rest) =
      (readPieces? rest).map fun (pieces, rest) => (pieceOf c :: pieces, rest) := by
  unfold escapeChar
  split
  case h_8 noQuote noBackslash noB noF noN noR noT =>
    have piece : pieceOf c = if c.toNat < 0x20 then .unit c.toNat else .char c :=
      pieceOf.eq_6 c noB noF noN noR noT
    split
    · rename_i control
      rw [piece, if_pos control, readPieces?_control control]
    · rename_i printable
      rw [piece, if_neg printable, List.singleton_append,
        readPieces?_plain noQuote noBackslash printable]
  all_goals exact readPieces?_letter rfl rest

/-- A quoted text is read up to its closing quote. -/
theorem readPieces?_quoted (text : String) (rest : List Char) :
    readPieces? (text.toList.flatMap escapeChar ++ '"' :: rest) = some (piecesOf text, rest) := by
  unfold piecesOf
  induction text.toList with
  | nil => rfl
  | cons c cs ih =>
    rw [List.flatMap_cons, List.append_assoc, readPieces?_escapeChar, ih]
    rfl

theorem decodePieces?_pieceOf (c : Char) (rest : List Piece) :
    decodePieces? (pieceOf c :: rest) = (decodePieces? rest).map (c :: ·) := by
  unfold pieceOf
  split
  case h_6 =>
    split
    · rename_i control
      have noHigh : isHighSurrogate c.toNat = false := by
        simp only [isHighSurrogate, Bool.and_eq_false_iff, decide_eq_false_iff_not]
        omega
      have noLow : isLowSurrogate c.toNat = false := by
        simp only [isLowSurrogate, Bool.and_eq_false_iff, decide_eq_false_iff_not]
        omega
      rcases rest with _ | ⟨next, rest⟩
      · simp [decodePieces?, noHigh, noLow]
      · cases next with
        | char d => simp [decodePieces?, noHigh, noLow]
        | unit v => rw [decodePieces?.eq_3]; simp [noHigh, noLow]
    · rfl
  all_goals rfl

theorem text?_piecesOf (text : String) : text? (piecesOf text) = some text := by
  have decoded : ∀ cs : List Char, decodePieces? (cs.map pieceOf) = some cs := by
    intro cs
    induction cs with
    | nil => rfl
    | cons c cs ih =>
      rw [List.map_cons, decodePieces?_pieceOf, ih]
      rfl
  rw [text?, piecesOf, decoded, Option.map_some, String.ofList_toList]

end Pieces

/-! ## Numbers -/

/-- Nothing that a number could go on with. -/
def EndsNumeral (rest : List Char) : Prop :=
  ∀ c ∈ rest.head?, c.isDigit = false ∧ c ≠ '.' ∧ c ≠ 'e' ∧ c ≠ 'E'

theorem endsNumeral_nil : EndsNumeral [] := by
  intro c member
  cases member

theorem endsNumeral_cons {c : Char} (ends : c.isDigit = false ∧ c ≠ '.' ∧ c ≠ 'e' ∧ c ≠ 'E')
    (rest : List Char) : EndsNumeral (c :: rest) := by
  intro d member
  cases member
  exact ends

theorem ne_of_isDigit {c d : Char} (digit : c.isDigit = true) (other : d.isDigit = false) :
    c ≠ d := by
  intro same
  rw [same, other] at digit
  cases digit

/-- The value of a character as a digit. -/
def digitValue (c : Char) : Fin 10 := ⟨(c.toNat - 48) % 10, Nat.mod_lt _ (by decide)⟩

theorem digit?_of_isDigit {c : Char} (digit : c.isDigit = true) : digit? c = some (digitValue c) :=
  if_pos digit

theorem val_digitValue {c : Char} (digit : c.isDigit = true) :
    (digitValue c).val = c.toNat - 48 := by
  have upper : c.toNat ≤ 57 := (Char.isDigit_iff_toNat.1 digit).2
  exact Nat.mod_eq_of_lt (by omega)

/-- The values of digits. -/
def digitValues (digits : List Char) : List (Fin 10) := digits.map digitValue

/-- The numeral of a natural number. -/
def Numeral.ofNat (n : Nat) : Numeral := ⟨false, digitValues (Nat.toDigits 10 n), none, none⟩

theorem readDigits_append {digits rest : List Char} (all : ∀ c ∈ digits, c.isDigit = true)
    (ends : EndsNumeral rest) : readDigits (digits ++ rest) = (digitValues digits, rest) := by
  induction digits with
  | nil =>
    cases rest with
    | nil => rfl
    | cons c rest =>
      have other : digit? c = none := by
        rw [digit?, (ends c rfl).1]
        rfl
      simp [readDigits, other, digitValues]
  | cons c digits ih =>
    rw [List.cons_append, readDigits, digit?_of_isDigit (all c List.mem_cons_self)]
    simp [ih fun d member => all d (List.mem_cons_of_mem _ member), digitValues]

/-- Only the zero is written with a zero in front. -/
theorem eq_zero_of_head?_toDigits (n : Nat) : (Nat.toDigits 10 n).head? = some '0' → n = 0 := by
  induction n using Nat.strongRecOn with
  | ind n ih =>
    rw [Nat.toDigits_eq_if (by decide)]
    intro leading
    split at leading
    · simpa using leading
    · rw [List.head?_append_of_ne_nil _ Nat.toDigits_ne_nil] at leading
      have smaller := ih (n / 10) (by omega) leading
      omega

theorem ofDigits_digitValues {digits : List Char} (all : ∀ c ∈ digits, c.isDigit = true) :
    Numeral.ofDigits (digitValues digits) = Nat.ofDigitChars 10 digits 0 := by
  have fold : ∀ init, (digitValues digits).foldl (fun n d => n * 10 + d.val) init =
      Nat.ofDigitChars 10 digits init := by
    induction digits with
    | nil =>
      intro init
      rfl
    | cons c digits ih =>
      intro init
      have step : init * 10 + (digitValue c).val = 10 * init + (c.toNat - 48) := by
        rw [val_digitValue (all c List.mem_cons_self), Nat.mul_comm]
      rw [Nat.ofDigitChars_cons, digitValues, List.map_cons, List.foldl_cons, step]
      exact ih (fun d member => all d (List.mem_cons_of_mem _ member)) _
  exact fold 0

/-- A zero in front of the digits of a number is the only one. -/
theorem length_of_leading_zero {n : Nat}
    (leading : (digitValues (Nat.toDigits 10 n)).head? = some 0) :
    (digitValues (Nat.toDigits 10 n)).length = 1 := by
  rw [digitValues, List.head?_map] at leading
  obtain ⟨c, first, value⟩ := Option.map_eq_some_iff.1 leading
  have digit := isDigit_toDigits n c (List.mem_of_mem_head? first)
  have zero : c.toNat - 48 = 0 := (val_digitValue digit).symm.trans (congrArg Fin.val value)
  have code : c.toNat = '0'.toNat := by
    have lower : 48 ≤ c.toNat := (Char.isDigit_iff_toNat.1 digit).1
    change c.toNat = 48
    omega
  rw [Char.toNat_inj.1 code] at first
  rw [eq_zero_of_head?_toDigits n first, Nat.toDigits_zero]
  rfl

theorem readNumeral?_toDigits (n : Nat) {rest : List Char} (ends : EndsNumeral rest) :
    readNumeral? (Nat.toDigits 10 n ++ rest) = some (.ofNat n, rest) := by
  have read := readDigits_append (isDigit_toDigits n) ends
  have digits : readDigits1? (Nat.toDigits 10 n ++ rest) =
      some (digitValues (Nat.toDigits 10 n), rest) := by
    have nonempty : digitValues (Nat.toDigits 10 n) ≠ [] := by
      simp [digitValues, Nat.toDigits_ne_nil]
    rw [readDigits1?, read]
    split
    · rename_i none
      exact (nonempty (Prod.mk.inj none).1).elim
    · rfl
  have fraction : readFraction? rest = some (none, rest) := by
    unfold readFraction?
    split
    · exact ((ends '.' rfl).2.1 rfl).elim
    · rfl
  have exponent : readExponent? rest = some (none, rest) := by
    unfold readExponent?
    split
    · exact ((ends 'e' rfl).2.2.1 rfl).elim
    · exact ((ends 'E' rfl).2.2.2 rfl).elim
    · rfl
  have single : ¬((digitValues (Nat.toDigits 10 n)).head? = some 0 ∧
      (digitValues (Nat.toDigits 10 n)).length ≠ 1) :=
    fun both => both.2 (length_of_leading_zero both.1)
  have unsigned : readUnsigned? false (Nat.toDigits 10 n ++ rest) = some (.ofNat n, rest) := by
    simp only [readUnsigned?, digits, Option.bind_eq_bind, Option.bind_some, if_neg single,
      fraction, exponent]
    rfl
  unfold readNumeral?
  split
  · rename_i same
    obtain ⟨c, others, written⟩ := List.exists_cons_of_ne_nil (Nat.toDigits_ne_nil (n := n) (b := 10))
    have digit := isDigit_toDigits n c (written ▸ List.mem_cons_self)
    rw [written, List.cons_append] at same
    exact (ne_of_isDigit digit rfl (List.cons.inj same).1).elim
  · exact unsigned

/-- The numeral of a 64-bit number stands for it. -/
theorem number?_ofNat (n : UInt64) :
    (Numeral.ofNat n.toNat).number? = some (.ofUInt64 n) := by
  have digits : Numeral.ofDigits (digitValues (Nat.toDigits 10 n.toNat)) = n.toNat := by
    rw [ofDigits_digitValues (isDigit_toDigits _), Nat.ofDigitChars_ten_toDigits]
  have value : (Numeral.ofNat n.toNat).integer? = some (n.toNat : Int) := by
    simp [Numeral.integer?, Numeral.ofNat, digits]
  have made : Number.ofInt? n.toNat = some (.ofUInt64 n) :=
    dif_pos ⟨Int.le_trans (by decide) (Int.natCast_nonneg _), Int.ofNat_lt.2 n.toNat_lt⟩
  rw [Numeral.number?, value, Option.bind_some, made]

theorem Number.toUInt64?_ofUInt64 (n : UInt64) : (Number.ofUInt64 n).toUInt64? = some n := by
  have kept : UInt64.ofNat (n.toNat : Int).toNat = n := by
    rw [Int.toNat_natCast, UInt64.ofNat_toNat]
  rw [Number.ofUInt64, Number.toUInt64?, if_pos (Int.natCast_nonneg _), kept]

end TableQuery.Json
