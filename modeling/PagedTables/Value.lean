/-
# Values

The values of table columns: byte strings and 64-bit integers.

* `Value.type` : the type of a value;
* `Value.text` : a value as text.
-/
import PagedTables.Text.Hex
import PagedTables.Text.Utf8

namespace PagedTables

/-! ## Types -/

/-- The type of a column. -/
inductive ColumnType where
  /-- Byte strings. -/
  | bytes
  /-- Signed 64-bit integers. -/
  | int64
  deriving DecidableEq, Repr, Inhabited

namespace ColumnType

/-- The number that stands for a type in a stored schema. -/
def tag : ColumnType → Nat
  | bytes => 1
  | int64 => 2

/-- The type that a number stands for. -/
def ofTag? : Nat → Option ColumnType
  | 1 => some bytes
  | 2 => some int64
  | _ => none

/-- The wording for a number that stands for no type. -/
def unknownTagMessage (tag : Nat) : String :=
  "unknown value type tag " ++ toString tag

/-- The name of a type. -/
def name : ColumnType → String
  | bytes => "BYTES"
  | int64 => "INT64"

theorem ofTag?_eq_some_iff {n : Nat} {t : ColumnType} : ofTag? n = some t ↔ n = t.tag := by
  constructor
  · intro h
    unfold ofTag? at h
    split at h <;> cases h <;> rfl
  · rintro rfl
    cases t <;> rfl

end ColumnType

/-! ## Values -/

/-- The value of a column. -/
inductive Value where
  /-- A byte string. -/
  | bytes (b : Bytes)
  /-- A signed 64-bit integer. -/
  | int64 (n : Int64)
  deriving DecidableEq, Repr, Inhabited

namespace Value

/-- The type of a value. -/
def type : Value → ColumnType
  | bytes _ => .bytes
  | int64 _ => .int64

/-- The integer, if the value is one. -/
def int64? : Value → Option Int64
  | int64 n => some n
  | bytes _ => none

/-- The byte string, if the value is one. -/
def bytes? : Value → Option Bytes
  | bytes b => some b
  | int64 _ => none

/-- A text as a value. -/
def ofText (s : String) : Value :=
  bytes (Bytes.ofText s)

/-- An integer in decimal, a byte string as the text it encodes, or in hexadecimal if it encodes
none. -/
def text : Value → String
  | int64 n => toString n.toInt
  | bytes b => (Bytes.toText? b).getD ("0x" ++ Hex.text b)

end Value

end PagedTables
