/-
# Hexadecimal text

Bytes as pairs of lower-case hexadecimal digits, high digit first.

* `Hex.digits` : two digits per byte;
* `Hex.bytes?` : the bytes spelled by an even number of digits.
-/
import PagedTables.Bytes

namespace PagedTables.Hex

/-- The digits of a byte string. -/
def digits : Bytes → List Char
  | [] => []
  | b :: rest => Nat.digitChar (b.toNat / 16) :: Nat.digitChar (b.toNat % 16) :: digits rest

/-- The digits of a byte string as text. -/
def text (b : Bytes) : String :=
  String.ofList (digits b)

/-- The value of a digit, in either case. -/
def digit? (c : Char) : Option Nat :=
  if '0' ≤ c ∧ c ≤ '9' then some (c.toNat - '0'.toNat)
  else if 'a' ≤ c ∧ c ≤ 'f' then some (c.toNat - 'a'.toNat + 10)
  else if 'A' ≤ c ∧ c ≤ 'F' then some (c.toNat - 'A'.toNat + 10)
  else none

/-- The bytes spelled by digits, if every byte has two of them. -/
def bytes? : List Char → Option Bytes
  | [] => some []
  | [_] => none
  | high :: low :: rest => do
    let h ← digit? high
    let l ← digit? low
    return UInt8.ofNat (16 * h + l) :: (← bytes? rest)

/-- A number with the prefix `0x` and two digits for each of `width` bytes. -/
def prefixed (width n : Nat) : String :=
  "0x" ++ text (Bytes.ofNatBE width n)

end PagedTables.Hex
