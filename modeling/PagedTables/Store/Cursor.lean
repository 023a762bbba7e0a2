/-
# Cursors

A position in a store. A cursor stands on an entry or is off the entries for good; each move
looks up the neighbour of the current key.

* `Cursor.seek` : the first entry in the direction of a comparison that satisfies it;
* `Cursor.next`, `Cursor.prev` : the entry above or below;
* `Cursor.trail` : the entries that a sequence of moves visits.
-/
import PagedTables.Store.Memory

namespace PagedTables

namespace Entries

/-- The first entry from below that satisfies an upward comparison, or from above that
satisfies a downward one. -/
def seek (m : Entries) (c : Comparison) (reference : Bytes) : Option Entry :=
  if c.ascends then m.toList.find? fun e => c.holds e.1 reference
  else m.toList.reverse.find? fun e => c.holds e.1 reference

end Entries

/-- A position in a store. -/
structure Cursor where
  /-- The entries that the cursor moves over. -/
  entries : Entries
  /-- The entry that the cursor stands on. -/
  current : Option Entry

namespace Cursor

/-- A cursor on the first entry that satisfies a comparison. -/
def seek (m : Entries) (c : Comparison) (reference : Bytes) : Cursor :=
  ⟨m, Entries.seek m c reference⟩

/-- Tells whether the cursor stands on an entry. -/
def isValid (c : Cursor) : Bool :=
  c.current.isSome

/-- The entry with the next larger key. -/
def next (c : Cursor) : Cursor :=
  { c with current := c.current.bind fun e => Entries.seek c.entries .above e.1 }

/-- The entry with the next smaller key. -/
def prev (c : Cursor) : Cursor :=
  { c with current := c.current.bind fun e => Entries.seek c.entries .below e.1 }

/-! ## Moves -/

/-- A move of a cursor. -/
inductive Move where
  /-- To the next larger key. -/
  | up
  /-- To the next smaller key. -/
  | down
  deriving DecidableEq, Repr

/-- The cursor after a move. -/
def move (c : Cursor) : Move → Cursor
  | .up => c.next
  | .down => c.prev

/-- The entries on which a cursor stands before, between and after moves. -/
def trail (c : Cursor) : List Move → List (Option Entry)
  | [] => [c.current]
  | m :: rest => c.current :: (c.move m).trail rest

end Cursor

end PagedTables
