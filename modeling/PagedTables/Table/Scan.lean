/-
# Scans

A range of keys of one table, and the position of a scan inside it. The start of a range places
the scan and gives its direction; the end is checked at every row.

* `KeyRange.isValid` : the two comparisons of a range must face each other;
* `Scan.row` : the row that the scan stands on.
-/
import PagedTables.Store.Cursor
import PagedTables.Table.Record

namespace PagedTables

/-! ## Ranges -/

/-- Two bounds on the key of a row. -/
structure KeyRange where
  /-- How keys are compared with the start. -/
  startBound : Comparison
  /-- The key at the start. -/
  startKey : Record
  /-- How keys are compared with the end. -/
  stopBound : Comparison
  /-- The key at the end. -/
  stopKey : Record
  deriving DecidableEq, Repr

namespace KeyRange

/-- The range of a single key. -/
def point (key : Record) : KeyRange :=
  ⟨.atLeast, key, .atMost, key⟩

/-- Tells whether the two comparisons face each other. -/
def isValid (r : KeyRange) : Bool :=
  r.startBound.ascends != r.stopBound.ascends

end KeyRange

/-! ## Scans -/

/-- A position in a range of keys of one table. -/
structure Scan where
  /-- The schema of the table. -/
  schema : Schema
  /-- The position in the store. -/
  cursor : Cursor
  /-- Whether the scan runs upwards. -/
  forward : Bool
  /-- How keys are compared with the end. -/
  stopBound : Comparison
  /-- The encoded key at the end. -/
  stop : Bytes

namespace Scan

/-- A scan of a store from a start in the direction of its comparison. -/
def start (entries : Entries) (schema : Schema) (startBound : Comparison) (startKey : Bytes)
    (stopBound : Comparison) (stop : Bytes) : Scan :=
  ⟨schema, Cursor.seek entries startBound startKey, startBound.ascends, stopBound, stop⟩

/-- The entry that the scan stands on, if it lies before the end. -/
def entry? (s : Scan) : Option Entry :=
  s.cursor.current.filter fun e => s.stopBound.holds e.1 s.stop

/-- Tells whether the scan stands on a row of its range. -/
def isValid (s : Scan) : Bool :=
  s.entry?.isSome

/-- Moves to the next row in the direction of the scan. -/
def next (s : Scan) : Except DatabaseError Scan :=
  if s.isValid then
    .ok { s with cursor := if s.forward then s.cursor.next else s.cursor.prev }
  else .error .invalidCursor

/-- The values of a stored row, those of the key first. -/
def decodeRow (schema : Schema) (e : Entry) : Except CodecError (List Value) := do
  let keys ← decodeKey schema.keyPrefix (schema.types.take schema.keyCount) e.1
  let others ← decodeTuple (schema.types.drop schema.keyCount) e.2
  return keys ++ others

/-- The row that the scan stands on, with all columns in the order of the schema. -/
def row (s : Scan) : Except DatabaseError Record :=
  match s.entry? with
  | none => .error .invalidCursor
  | some e =>
    match decodeRow s.schema e with
    | .ok values => .ok (Record.ofRow s.schema values)
    | .error error => .error (.undecodable error)

end Scan

end PagedTables
