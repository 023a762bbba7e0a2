/-
# Text as UTF-8

Names and messages are text; stored bytes are read as UTF-8.

* `Bytes.ofText` : the encoding of a text;
* `Bytes.toText?` : the text that bytes encode, if they encode one;
* `Bytes.toTextLossy` : the same with a replacement character for each ill-formed stretch.
-/
import PagedTables.Bytes

namespace PagedTables

/-- The character that stands for an ill-formed stretch of bytes. -/
def replacementChar : Char := '\ufffd'

namespace Bytes

/-- The UTF-8 encoding of a text. -/
def ofText (s : String) : Bytes :=
  s.toByteArray.data.toList

/-- The text that bytes encode in UTF-8, if they are well-formed. -/
def toText? (b : Bytes) : Option String :=
  String.fromUTF8? b.toByteArray

/-! ## Ill-formed input -/

/-- A character of which the first bytes have been read. -/
structure PartialChar where
  /-- Continuation bytes still to come. -/
  missing : Nat
  /-- The bits read so far. -/
  code : Nat
  /-- The least admissible next byte. -/
  low : Nat
  /-- The greatest admissible next byte. -/
  high : Nat

/-- What a first byte announces: a whole character, the start of a longer one, or nothing. -/
inductive Lead where
  /-- A character of one byte. -/
  | whole (c : Char)
  /-- The start of a longer character. -/
  | start (p : PartialChar)
  /-- A byte that starts no character. -/
  | invalid

/-- Reads a first byte. The bounds on the second byte exclude overlong forms, surrogates and
code points past the last one. -/
def lead (b : Nat) : Lead :=
  if b < 0x80 then .whole (Char.ofNat b)
  else if b < 0xC2 then .invalid
  else if b < 0xE0 then .start ⟨1, b - 0xC0, 0x80, 0xBF⟩
  else if b = 0xE0 then .start ⟨2, 0, 0xA0, 0xBF⟩
  else if b = 0xED then .start ⟨2, 0xD, 0x80, 0x9F⟩
  else if b < 0xF0 then .start ⟨2, b - 0xE0, 0x80, 0xBF⟩
  else if b = 0xF0 then .start ⟨3, 0, 0x90, 0xBF⟩
  else if b < 0xF4 then .start ⟨3, b - 0xF0, 0x80, 0xBF⟩
  else if b = 0xF4 then .start ⟨3, 4, 0x80, 0x8F⟩
  else .invalid

/-- Decodes bytes after an optional unfinished character. A character that breaks off is
replaced once, and the byte that broke it off is read afresh. -/
def decodeLossy : Option PartialChar → Bytes → List Char
  | none, [] => []
  | some _, [] => [replacementChar]
  | none, b :: rest =>
    match lead b.toNat with
    | .whole c => c :: decodeLossy none rest
    | .start p => decodeLossy (some p) rest
    | .invalid => replacementChar :: decodeLossy none rest
  | some p, b :: rest =>
    if p.low ≤ b.toNat ∧ b.toNat ≤ p.high then
      let code := p.code * 64 + (b.toNat - 0x80)
      if p.missing ≤ 1 then Char.ofNat code :: decodeLossy none rest
      else decodeLossy (some ⟨p.missing - 1, code, 0x80, 0xBF⟩) rest
    else
      replacementChar ::
        match lead b.toNat with
        | .whole c => c :: decodeLossy none rest
        | .start p => decodeLossy (some p) rest
        | .invalid => replacementChar :: decodeLossy none rest

/-- The text that bytes encode, each maximal ill-formed stretch replaced by one character. -/
def toTextLossy (b : Bytes) : String :=
  (toText? b).getD (String.ofList (decodeLossy none b))

end Bytes

end PagedTables
