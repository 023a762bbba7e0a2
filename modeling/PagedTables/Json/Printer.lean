/-
# Writing JSON

Values as JSON text, in bytes.

* `Json.compact` : without any blanks;
* `Json.pretty` : with one item on each line, indented by two blanks per level;
* `Json.sorted` : with the fields of every object in the order of their names.
-/
import PagedTables.Decimal.Shortest
import PagedTables.Json.Basic
import PagedTables.OrderedMap
import PagedTables.Text.Hex

namespace PagedTables

namespace Json

/-! ## Scalars -/

/-- The two characters that stand for a byte which has a short escape. -/
def shortEscape? (b : UInt8) : Option UInt8 :=
  if b = 0x22 then some 0x22
  else if b = 0x5c then some 0x5c
  else if b = 0x08 then some 0x62
  else if b = 0x0c then some 0x66
  else if b = 0x0a then some 0x6e
  else if b = 0x0d then some 0x72
  else if b = 0x09 then some 0x74
  else none

/-- A byte inside a string literal. -/
def escapedByte (b : UInt8) : Bytes :=
  match shortEscape? b with
  | some c => [0x5c, c]
  | none => if b < 0x20 then Bytes.ofText "\\u00" ++ Bytes.ofText (Hex.text [b]) else [b]

/-- A string literal. -/
def literal (b : Bytes) : Bytes :=
  0x22 :: b.flatMap escapedByte ++ [0x22]

/-- A number as text. Integers that fit no 64-bit word are written as the nearest double. -/
def numberText : JsonNumber → String
  | .integer n =>
    if Int64.minValue.toInt ≤ n ∧ n < Int.ofNat UInt64.size then toString n
    else Decimal.doubleText (n < 0) ⟨n.natAbs, 0⟩
  | .decimal negative digits exponent => Decimal.doubleText negative ⟨digits, exponent⟩

/-! ## Compact form -/

mutual

/-- A value without any blanks. -/
def compact : Json → Bytes
  | null => Bytes.ofText "null"
  | bool b => Bytes.ofText (if b then "true" else "false")
  | number n => Bytes.ofText (numberText n)
  | string b => literal b
  | array items => 0x5b :: compactItems items ++ [0x5d]
  | object fields => 0x7b :: compactFields fields ++ [0x7d]

/-- Items with commas between them. -/
def compactItems : List Json → Bytes
  | [] => []
  | [item] => compact item
  | item :: rest => compact item ++ 0x2c :: compactItems rest

/-- Fields with commas between them. -/
def compactFields : List (Bytes × Json) → Bytes
  | [] => []
  | [(name, value)] => literal name ++ 0x3a :: compact value
  | (name, value) :: rest => literal name ++ 0x3a :: compact value ++ 0x2c :: compactFields rest

end

/-! ## Indented form -/

/-- The start of a line at a level. -/
def newLine (level : Nat) : Bytes :=
  0x0a :: List.replicate (2 * level) 0x20

mutual

/-- A value whose lines after the first one stand at a level or deeper. -/
def prettyAt (level : Nat) : Json → Bytes
  | array [] => [0x5b, 0x5d]
  | object [] => [0x7b, 0x7d]
  | array items => 0x5b :: prettyItems (level + 1) items ++ newLine level ++ [0x5d]
  | object fields => 0x7b :: prettyFields (level + 1) fields ++ newLine level ++ [0x7d]
  | value => compact value

/-- Items, each on a line of its own. -/
def prettyItems (level : Nat) : List Json → Bytes
  | [] => []
  | [item] => newLine level ++ prettyAt level item
  | item :: rest => newLine level ++ prettyAt level item ++ 0x2c :: prettyItems level rest

/-- Fields, each on a line of its own. -/
def prettyFields (level : Nat) : List (Bytes × Json) → Bytes
  | [] => []
  | [(name, value)] =>
    newLine level ++ literal name ++ [0x3a, 0x20] ++ prettyAt level value
  | (name, value) :: rest =>
    newLine level ++ literal name ++ [0x3a, 0x20] ++ prettyAt level value ++
      0x2c :: prettyFields level rest

end

/-- A value with one item on each line. -/
def pretty (value : Json) : Bytes :=
  prettyAt 0 value

/-! ## Order of fields -/

mutual

/-- The value with the fields of every object in the order of their names; of fields with one
name the last one stays. -/
def sorted : Json → Json
  | array items => array (sortedItems items)
  | object fields => object (OrderedMap.ofList (sortedFields fields)).toList
  | value => value

/-- Items with sorted fields. -/
def sortedItems : List Json → List Json
  | [] => []
  | item :: rest => sorted item :: sortedItems rest

/-- Fields whose values have sorted fields. -/
def sortedFields : List (Bytes × Json) → List (Bytes × Json)
  | [] => []
  | (name, value) :: rest => (name, sorted value) :: sortedFields rest

end

/-- Compact text. -/
def compactText (value : Json) : String :=
  Bytes.toTextLossy value.compact

/-- Indented text. -/
def prettyText (value : Json) : String :=
  Bytes.toTextLossy value.pretty

end Json

end PagedTables
