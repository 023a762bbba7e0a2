/-
# Comparisons

The four comparisons that place the start of a scan and bound its end. Byte strings are compared
lexicographically, a proper prefix first.

* `Comparison.holds` : whether a key stands in the relation to a reference;
* `Comparison.ascends` : the direction of a scan that starts with the comparison.
-/
import PagedTables.Bytes

namespace PagedTables

/-- How a key is compared with a reference. -/
inductive Comparison where
  /-- At or above the reference. -/
  | atLeast
  /-- Above the reference. -/
  | above
  /-- Below the reference. -/
  | below
  /-- At or below the reference. -/
  | atMost
  deriving DecidableEq, Repr, Inhabited

namespace Comparison

/-- Tells whether a scan that starts with this comparison runs upwards. -/
def ascends : Comparison → Bool
  | atLeast | above => true
  | below | atMost => false

/-- Tells whether an outcome of comparing key and reference satisfies the comparison. -/
def accepts : Comparison → Ordering → Bool
  | atLeast, o => o.isGE
  | above, o => o.isGT
  | below, o => o.isLT
  | atMost, o => o.isLE

/-- Tells whether a key stands in the relation to a reference. -/
def holds (c : Comparison) (key reference : Bytes) : Bool :=
  c.accepts (compare key reference)

/-- The short name. -/
def name : Comparison → String
  | atLeast => "Ge"
  | above => "Gt"
  | below => "Lt"
  | atMost => "Le"

end Comparison

end PagedTables
