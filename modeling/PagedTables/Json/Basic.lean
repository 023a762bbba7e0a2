/-
# JSON values

A JSON value as it is read or about to be written. The fields of an object keep their order, and
a string is the byte string that its literal spells: UTF-8 for a text, while a literal with an
unpaired surrogate spells bytes that encode no text.

* `Json.text?`, `Json.nat?`, `Json.list?` : the value as a member of a type, if it is one;
* `Json.fields?` : the values of known fields of an object or of an array in their place.
-/
import PagedTables.Text.Utf8

namespace PagedTables

/-- A number as it is written. -/
inductive JsonNumber where
  /-- A number without point and exponent. -/
  | integer (n : Int)
  /-- The number `digits * 10 ^ exponent`, or its negative. -/
  | decimal (negative : Bool) (digits : Nat) (exponent : Int)
  deriving DecidableEq, Repr, Inhabited

/-- A JSON value. -/
inductive Json where
  /-- The value `null`. -/
  | null
  /-- A truth value. -/
  | bool (b : Bool)
  /-- A number. -/
  | number (n : JsonNumber)
  /-- A string. -/
  | string (b : Bytes)
  /-- An array. -/
  | array (items : List Json)
  /-- An object. -/
  | object (fields : List (Bytes × Json))
  deriving Repr, Inhabited

namespace Json

/-! ## Making values -/

/-- A text as a value. -/
def text (s : String) : Json :=
  string (Bytes.ofText s)

/-- An integer as a value. -/
def int (n : Int) : Json :=
  number (.integer n)

/-- A natural number as a value. -/
def nat (n : Nat) : Json :=
  int n

/-- An object with the fields in the given order. -/
def record (fields : List (String × Json)) : Json :=
  object (fields.map fun (name, value) => (Bytes.ofText name, value))

/-! ## Taking values apart -/

/-- The text, if the value is one. -/
def text? : Json → Option String
  | string b => Bytes.toText? b
  | _ => none

/-- The natural number up to a bound, if the value is one. -/
def nat? (bound : Nat) : Json → Option Nat
  | number (.integer n) => if 0 ≤ n ∧ n ≤ bound then some n.toNat else none
  | _ => none

/-- The truth value, if the value is one. -/
def bool? : Json → Option Bool
  | bool b => some b
  | _ => none

/-- The items, if the value is an array and each of them can be read. -/
def list? {α : Type} (item? : Json → Option α) : Json → Option (List α)
  | array items => items.mapM item?
  | _ => none

/-- The value of the only field of a name, `none` inside if there is no such field, and no
answer if there are several. -/
def uniqueField (fields : List (Bytes × Json)) (name : String) : Option (Option Json) :=
  match fields.filter fun f => f.1 == Bytes.ofText name with
  | [] => some none
  | [f] => some (some f.2)
  | _ => none

/-- The values of known fields. Of an object, other fields are passed over; an array stands for
an object that lists the first of the known fields in order. -/
def fields? (names : List String) : Json → Option (List (Option Json))
  | object fields =>
    if fields.all fun f => (Bytes.toText? f.1).isSome then names.mapM (uniqueField fields)
    else none
  | array items =>
    if items.length ≤ names.length then
      some (items.map some ++ List.replicate (names.length - items.length) none)
    else none
  | _ => none

/-- The value of a field that may be missing. -/
def optional {α : Type} (read : Json → Option α) (default : α) : Option Json → Option α
  | none => some default
  | some value => read value

end Json

end PagedTables
