/-
# Encoded tuples

Tuples of values as byte strings whose order is the order of the tuples. An integer takes eight
bytes, most significant first, with its sign bit flipped; a byte string is escaped and ended by
a zero byte. A key is the prefix of its table, in four bytes, before the tuple of its columns,
so that the keys of a table lie together.

* `encodeTuple`, `decodeTuple` : tuples and their bytes;
* `encodeKey`, `decodeKey` : the same with the prefix of a table.
-/
import PagedTables.Key.Escape
import PagedTables.Value

namespace PagedTables

/-! ## Values -/

/-- The bit that tells negative integers from others. -/
def signBit : UInt64 := 0x8000000000000000

/-- An integer as a word that has the same order. -/
def orderedWord (n : Int64) : UInt64 :=
  n.toUInt64 ^^^ signBit

/-- The integer of an ordered word. -/
def ofOrderedWord (w : UInt64) : Int64 :=
  (w ^^^ signBit).toInt64

/-- The bytes of a value. -/
def encodeValue : Value → Bytes
  | .int64 n => Bytes.ofNatBE 8 (orderedWord n).toNat
  | .bytes b => escape b ++ [0]

/-- Reads a value of a type from the start of the input, and answers the rest too. -/
def decodeValue : ColumnType → Bytes → Except CodecError (Value × Bytes)
  | .int64, input =>
    if input.length < 8 then .error (.shortInput 8 input.length)
    else
      .ok (.int64 (ofOrderedWord (UInt64.ofNat (Bytes.toNatBE (input.take 8)))), input.drop 8)
  | .bytes, input =>
    match input.dropWhile (· != 0) with
    | [] => .error .missingTerminator
    | _ :: rest => (unescape (input.takeWhile (· != 0))).map fun b => (.bytes b, rest)

/-! ## Tuples -/

/-- The bytes of several values. -/
def encodeTuple (values : List Value) : Bytes :=
  values.flatMap encodeValue

/-- Reads values of given types; they must use up the input. -/
def decodeTuple : List ColumnType → Bytes → Except CodecError (List Value)
  | [], [] => .ok []
  | [], input@(_ :: _) => .error (.trailingBytes input.length)
  | type :: types, input => do
    let (value, rest) ← decodeValue type input
    return value :: (← decodeTuple types rest)

/-! ## Keys -/

/-- The length of the prefix of a table. -/
def prefixSize : Nat := 4

/-- The prefix of a table as bytes; no key of the table is smaller. -/
def prefixKey (tablePrefix : UInt32) : Bytes :=
  Bytes.ofNatBE prefixSize tablePrefix.toNat

/-- The key of a row from the values of its key columns. -/
def encodeKey (tablePrefix : UInt32) (values : List Value) : Bytes :=
  prefixKey tablePrefix ++ encodeTuple values

/-- The values of the key columns, read from a key of the table. -/
def decodeKey (tablePrefix : UInt32) (types : List ColumnType) (key : Bytes) :
    Except CodecError (List Value) :=
  if key.length < prefixSize then .error (.shortInput prefixSize key.length)
  else
    let found := UInt32.ofNat (Bytes.toNatBE (key.take prefixSize))
    if found ≠ tablePrefix then .error (.prefixMismatch tablePrefix found)
    else decodeTuple types (key.drop prefixSize)

end PagedTables
