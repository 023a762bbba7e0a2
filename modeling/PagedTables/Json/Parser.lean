/-
# Reading JSON

The JSON value that a byte string spells. A string literal may contain any bytes but control
characters; whether they encode a text is for the reader of the value to decide.

* `Json.parse` : the value, or the place where the text goes wrong.
-/
import PagedTables.Json.Basic
import PagedTables.Text.Hex

namespace PagedTables

namespace Json

/-! ## Faults -/

/-- What is wrong with a text. -/
inductive Problem where
  /-- The text ends too soon. -/
  | unexpectedEnd
  /-- A byte does not belong where it stands. -/
  | unexpectedByte
  /-- A number has a superfluous zero or lacks digits. -/
  | malformedNumber
  /-- A backslash is followed by something that it does not escape. -/
  | malformedEscape
  /-- A string literal contains a control character. -/
  | controlCharacter
  /-- Something follows the value. -/
  | trailingText
  /-- The value is none of the kind asked for. -/
  | wrongShape
  deriving DecidableEq, Repr

/-- The wording of a problem. -/
def Problem.message : Problem → String
  | unexpectedEnd => "unexpected end"
  | unexpectedByte => "unexpected character"
  | malformedNumber => "malformed number"
  | malformedEscape => "malformed escape"
  | controlCharacter => "control character in a string"
  | trailingText => "text after the value"
  | wrongShape => "unexpected kind of value"

/-- A problem, and how many bytes are left at its place. -/
structure Fault where
  /-- What is wrong. -/
  problem : Problem
  /-- The number of bytes after the place. -/
  remaining : Nat
  deriving DecidableEq, Repr

/-- The wording of a fault in a text. -/
def Fault.message (f : Fault) (source : Bytes) : String :=
  let before := source.take (source.length - f.remaining)
  let line := before.count 0x0a + 1
  let column := (before.reverse.takeWhile (· != 0x0a)).length
  f.problem.message ++ " at line " ++ toString line ++ " column " ++ toString column

/-- Fails at the start of the given bytes. A reader answers its result and the bytes after it. -/
def fail {α : Type} (problem : Problem) (rest : Bytes) : Except Fault α :=
  .error ⟨problem, rest.length⟩

/-! ## Tokens -/

/-- Tells whether a byte may stand between tokens. -/
def isBlank (b : UInt8) : Bool :=
  b == 0x20 || b == 0x09 || b == 0x0a || b == 0x0d

/-- The bytes after blanks. -/
def skipBlanks (s : Bytes) : Bytes :=
  s.dropWhile isBlank

/-- Reads fixed bytes. -/
def readExactly (token : Bytes) (value : Json) (s : Bytes) : Except Fault (Json × Bytes) :=
  if token.isPrefixOf s then .ok (value, s.drop token.length)
  else fail .unexpectedByte s

/-! ## Numbers -/

/-- Tells whether a byte is a decimal digit. -/
def isDigit (b : UInt8) : Bool :=
  0x30 ≤ b && b ≤ 0x39

/-- The number that digits spell. -/
def digitsValue (digits : Bytes) : Nat :=
  digits.foldl (fun n d => 10 * n + (d.toNat - 0x30)) 0

/-- Reads one or more digits. -/
def readDigits (s : Bytes) : Except Fault (Bytes × Bytes) :=
  let digits := s.takeWhile isDigit
  if digits.isEmpty then fail .malformedNumber s else .ok (digits, s.dropWhile isDigit)

/-- Reads digits that do not start with a superfluous zero. -/
def readWhole (s : Bytes) : Except Fault (Bytes × Bytes) := do
  let (digits, rest) ← readDigits s
  if digits.length > 1 ∧ digits.head? = some 0x30 then fail .malformedNumber s
  else return (digits, rest)

/-- Reads a point with digits, if there is one. -/
def readFraction : Bytes → Except Fault (Option Bytes × Bytes)
  | 0x2e :: s => (readDigits s).map fun (digits, rest) => (some digits, rest)
  | s => .ok (none, s)

/-- Reads an exponent, if there is one. -/
def readExponent : Bytes → Except Fault (Option Int × Bytes)
  | b :: s =>
    if b = 0x65 ∨ b = 0x45 then
      match s with
      | 0x2d :: s => (readDigits s).map fun (d, rest) => (some (-(digitsValue d : Int)), rest)
      | 0x2b :: s => (readDigits s).map fun (d, rest) => (some (digitsValue d : Int), rest)
      | s => (readDigits s).map fun (d, rest) => (some (digitsValue d : Int), rest)
    else .ok (none, b :: s)
  | [] => .ok (none, [])

/-- Reads a number without its sign. The negative of zero is a decimal, since no integer is. -/
def readUnsigned (negative : Bool) (s : Bytes) : Except Fault (JsonNumber × Bytes) := do
  let (whole, s) ← readWhole s
  let (fraction, s) ← readFraction s
  let (exponent, s) ← readExponent s
  let value := digitsValue whole
  if fraction.isNone ∧ exponent.isNone ∧ !(negative ∧ value = 0) then
    return (.integer (if negative then -(value : Int) else value), s)
  else
    let decimals := fraction.getD []
    return (.decimal negative (digitsValue (whole ++ decimals))
      (exponent.getD 0 - decimals.length), s)

/-- Reads a number. -/
def readNumber : Bytes → Except Fault (JsonNumber × Bytes)
  | 0x2d :: s => readUnsigned true s
  | s => readUnsigned false s

/-! ## Strings -/

/-- The bytes of a code point in UTF-8, also of one that is reserved for surrogates. -/
def codePointBytes (n : Nat) : Bytes :=
  if n < 0x80 then [UInt8.ofNat n]
  else if n < 0x800 then [UInt8.ofNat (0xC0 + n / 64), UInt8.ofNat (0x80 + n % 64)]
  else if n < 0x10000 then
    [UInt8.ofNat (0xE0 + n / 4096), UInt8.ofNat (0x80 + n / 64 % 64), UInt8.ofNat (0x80 + n % 64)]
  else
    [UInt8.ofNat (0xF0 + n / 262144), UInt8.ofNat (0x80 + n / 4096 % 64),
      UInt8.ofNat (0x80 + n / 64 % 64), UInt8.ofNat (0x80 + n % 64)]

/-- Reads the four hexadecimal digits of a code unit. -/
def readCodeUnit (s : Bytes) : Except Fault (Nat × Bytes) :=
  match (s.take 4).mapM fun b => Hex.digit? (Char.ofNat b.toNat) with
  | some [a, b, c, d] => .ok (((a * 16 + b) * 16 + c) * 16 + d, s.drop 4)
  | _ => fail (if s.length < 4 then .unexpectedEnd else .malformedEscape) s

/-- The byte that a short escape stands for. -/
def shortEscaped? (b : UInt8) : Option UInt8 :=
  if b = 0x22 then some 0x22
  else if b = 0x5c then some 0x5c
  else if b = 0x2f then some 0x2f
  else if b = 0x62 then some 0x08
  else if b = 0x66 then some 0x0c
  else if b = 0x6e then some 0x0a
  else if b = 0x72 then some 0x0d
  else if b = 0x74 then some 0x09
  else none

/-- The second half of a surrogate pair whose first half is `high`, if it comes next. -/
def pairWith? (high : Nat) : Bytes → Option (Bytes × Bytes)
  | 0x5c :: 0x75 :: s =>
    match readCodeUnit s with
    | .ok (low, rest) =>
      if 0xDC00 ≤ low ∧ low < 0xE000 then
        some (codePointBytes (0x10000 + (high - 0xD800) * 1024 + (low - 0xDC00)), rest)
      else none
    | .error _ => none
  | _ => none

/-- Reads what follows a backslash; a surrogate pair is one character. -/
def readEscape : Bytes → Except Fault (Bytes × Bytes)
  | [] => fail .unexpectedEnd []
  | 0x75 :: s => do
    let (unit, rest) ← readCodeUnit s
    if 0xD800 ≤ unit ∧ unit < 0xDC00 then
      return (pairWith? unit rest).getD (codePointBytes unit, rest)
    else
      return (codePointBytes unit, rest)
  | b :: s =>
    match shortEscaped? b with
    | some c => .ok ([c], s)
    | none => fail .malformedEscape (b :: s)

/-- Reads a string after its opening quote, in at most `fuel` steps. -/
def readString : Nat → Bytes → Except Fault (Bytes × Bytes)
  | 0, s => fail .unexpectedEnd s
  | _ + 1, [] => fail .unexpectedEnd []
  | fuel + 1, b :: s =>
    if b = 0x22 then .ok ([], s)
    else if b = 0x5c then do
      let (bytes, s) ← readEscape s
      let (more, s) ← readString fuel s
      return (bytes ++ more, s)
    else if b < 0x20 then fail .controlCharacter (b :: s)
    else do
      let (more, s) ← readString fuel s
      return (b :: more, s)

/-! ## Values -/

mutual

/-- Reads a value after blanks. -/
def readValue : Nat → Bytes → Except Fault (Json × Bytes)
  | 0, s => fail .unexpectedEnd s
  | fuel + 1, s =>
    match skipBlanks s with
    | [] => fail .unexpectedEnd []
    | b :: rest =>
      if b = 0x6e then readExactly (Bytes.ofText "null") null (b :: rest)
      else if b = 0x74 then readExactly (Bytes.ofText "true") (bool true) (b :: rest)
      else if b = 0x66 then readExactly (Bytes.ofText "false") (bool false) (b :: rest)
      else if b = 0x22 then (readString rest.length rest).map fun (t, s) => (string t, s)
      else if b = 0x5b then
        match skipBlanks rest with
        | 0x5d :: s => .ok (array [], s)
        | s => (readItems fuel s).map fun (items, s) => (array items, s)
      else if b = 0x7b then
        match skipBlanks rest with
        | 0x7d :: s => .ok (object [], s)
        | s => (readFields fuel s).map fun (fields, s) => (object fields, s)
      else if b = 0x2d ∨ isDigit b then
        (readNumber (b :: rest)).map fun (n, s) => (number n, s)
      else fail .unexpectedByte (b :: rest)

/-- Reads the items of an array up to its closing bracket. -/
def readItems : Nat → Bytes → Except Fault (List Json × Bytes)
  | 0, s => fail .unexpectedEnd s
  | fuel + 1, s => do
    let (item, s) ← readValue fuel s
    match skipBlanks s with
    | [] => fail .unexpectedEnd []
    | b :: rest =>
      if b = 0x5d then return ([item], rest)
      else if b = 0x2c then
        let (more, s) ← readItems fuel rest
        return (item :: more, s)
      else fail .unexpectedByte (b :: rest)

/-- Reads the fields of an object up to its closing brace. -/
def readFields : Nat → Bytes → Except Fault (List (Bytes × Json) × Bytes)
  | 0, s => fail .unexpectedEnd s
  | fuel + 1, s =>
    match skipBlanks s with
    | 0x22 :: s => do
      let (name, s) ← readString s.length s
      match skipBlanks s with
      | 0x3a :: s =>
        let (value, s) ← readValue fuel s
        match skipBlanks s with
        | [] => fail .unexpectedEnd []
        | b :: rest =>
          if b = 0x7d then return ([(name, value)], rest)
          else if b = 0x2c then
            let (more, s) ← readFields fuel rest
            return ((name, value) :: more, s)
          else fail .unexpectedByte (b :: rest)
      | s => fail .unexpectedByte s
    | s => fail .unexpectedByte s

end

/-- The value that a text spells, blanks around it aside. -/
def parse (source : Bytes) : Except Fault Json := do
  let (value, rest) ← readValue (2 * source.length + 2) source
  let rest := skipBlanks rest
  if rest.isEmpty then return value else fail .trailingText rest

/-- The value that a text spells, as a member of a type. -/
def parseAs {α : Type} (read : Json → Option α) (source : Bytes) : Except Fault α := do
  match read (← parse source) with
  | some a => return a
  | none => fail .wrongShape []

end Json

end PagedTables
