import Std.Data.TreeMap
import TableQuery.Double

/-!
# JSON documents

A document is a tree of values. Its numbers are whole numbers from `-2 ^ 63` to `2 ^ 64 - 1`, kept
exactly, or finite doubles. An object lists its members with ascending keys, each key once; keys are
ordered by their code points. `Json.object` builds one from members in any order, where a later
member replaces an earlier one with the same key.
-/

namespace TableQuery

/-- A number of a document. A whole number and a double are different numbers, also when their
values agree. -/
inductive Json.Number where
  | whole (n : Int) (inRange : -Int.pow 2 63 ≤ n ∧ n < Int.pow 2 64)
  | real (x : Float) (finite : x.isFinite = true)

/-- A JSON document. -/
inductive Json where
  | null
  | bool (b : Bool)
  | num (n : Json.Number)
  | str (s : String)
  | arr (items : List Json)
  | obj (members : List (String × Json))

namespace Json

instance : Inhabited Json := ⟨.null⟩

/-! ## Numbers -/

namespace Number

/-- An integer as a document's number, if it is in range. -/
def ofInt? (n : Int) : Option Number :=
  if inRange : -Int.pow 2 63 ≤ n ∧ n < Int.pow 2 64 then some (.whole n inRange) else none

/-- A double as a document's number, if it is finite. -/
def ofFloat? (x : Float) : Option Number :=
  if finite : x.isFinite = true then some (.real x finite) else none

def ofInt64 (n : Int64) : Number :=
  .whole n.toInt ⟨n.le_toInt, Int.lt_trans n.toInt_lt (by decide)⟩

def ofUInt64 (n : UInt64) : Number :=
  .whole n.toNat ⟨Int.le_trans (by decide) (Int.natCast_nonneg _), Int.ofNat_lt.2 n.toNat_lt⟩

/-- The double nearest to the number. -/
def toFloat : Number → Float
  | .whole n _ => doubleOfInt n
  | .real x _ => x

/-- The number as a 64-bit signed integer, if it is a whole number in that range. -/
def toInt64? : Number → Option Int64
  | .whole n _ => if n < Int.pow 2 63 then some (Int64.ofInt n) else none
  | .real _ _ => none

/-- The number as a 64-bit natural number, if it is a whole number that is not negative. -/
def toUInt64? : Number → Option UInt64
  | .whole n _ => if 0 ≤ n then some (UInt64.ofNat n.toNat) else none
  | .real _ _ => none

/-- Whole numbers compare by value and doubles as doubles do; the two kinds are never equal. -/
def beq : Number → Number → Bool
  | .whole m _, .whole n _ => m == n
  | .real x _, .real y _ => x == y
  | _, _ => false

instance : BEq Number := ⟨beq⟩

end Number

/-! ## Objects -/

/-- The object with the given members; of members with one key the last one counts. -/
def object (members : List (String × Json)) : Json :=
  .obj (Std.TreeMap.ofList members compare).toList

/-! ## Comparison -/

mutual

/-- Documents are equal part by part; `0.0` and `-0.0` are equal as doubles are. -/
def beq : Json → Json → Bool
  | .null, .null => true
  | .bool a, .bool b => a == b
  | .num m, .num n => m == n
  | .str s, .str t => s == t
  | .arr xs, .arr ys => beqItems xs ys
  | .obj xs, .obj ys => beqMembers xs ys
  | _, _ => false

def beqItems : List Json → List Json → Bool
  | [], [] => true
  | x :: xs, y :: ys => beq x y && beqItems xs ys
  | _, _ => false

def beqMembers : List (String × Json) → List (String × Json) → Bool
  | [], [] => true
  | (k, x) :: xs, (l, y) :: ys => k == l && beq x y && beqMembers xs ys
  | _, _ => false

end

instance : BEq Json := ⟨beq⟩

end Json

end TableQuery
