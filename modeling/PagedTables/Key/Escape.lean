/-
# Escaped byte strings

Inside a key, a byte string is written so that it contains no zero byte: zero becomes `01 01`
and one becomes `01 02`. A single zero byte can then mark its end, and the escaped strings are
ordered as the strings themselves.

* `escape`, `unescape` : the two directions;
* `unescape_escape` : escaping loses nothing.
-/
import PagedTables.Text.Hex

namespace PagedTables

/-! ## Errors -/

/-- Why stored bytes are no encoding. -/
inductive CodecError where
  /-- An escape byte is followed by a byte that it does not escape. -/
  | badEscape (next : UInt8)
  /-- The input ends after an escape byte. -/
  | truncatedEscape
  /-- A byte string has no end mark. -/
  | missingTerminator
  /-- The input ends inside a value of fixed width. -/
  | shortInput (needed available : Nat)
  /-- Bytes are left after the last value. -/
  | trailingBytes (count : Nat)
  /-- The key belongs to another table. -/
  | prefixMismatch (expected found : UInt32)
  deriving DecidableEq, Repr

/-- The wording of an error. -/
def CodecError.message : CodecError → String
  | badEscape next =>
    "malformed escape sequence: 0x01 followed by " ++ Hex.prefixed 1 next.toNat
  | truncatedEscape => "escape byte at end of input"
  | missingTerminator => "missing string terminator"
  | shortInput needed available =>
    "input too short: need " ++ toString needed ++ " bytes, have " ++ toString available
  | trailingBytes count => toString count ++ " trailing bytes after last value"
  | prefixMismatch expected found =>
    "table prefix mismatch: expected " ++ toString expected.toNat ++ ", found " ++
      toString found.toNat

/-! ## Escaping -/

/-- The byte that starts an escape. -/
def escapeByte : UInt8 := 1

/-- Tells whether a byte is written as an escape. -/
def mustEscape (b : UInt8) : Bool :=
  b ≤ 1

/-- Writes a byte string byte by byte. -/
def escapeEach : Bytes → Bytes
  | [] => []
  | b :: rest =>
    if mustEscape b then escapeByte :: (b + 1) :: escapeEach rest else b :: escapeEach rest

/-- Writes a byte string without zero bytes. One in which nothing is to be escaped is written as
it is. -/
def escape (b : Bytes) : Bytes :=
  if b.any mustEscape then escapeEach b else b

/-- Reads an escaped byte string byte by byte. Bytes that start no escape stand for
themselves. -/
def unescapeEach : Bytes → Except CodecError Bytes
  | [] => .ok []
  | [b] => if b = escapeByte then .error .truncatedEscape else .ok [b]
  | b :: next :: rest =>
    if b = escapeByte then
      if next = 1 ∨ next = 2 then (unescapeEach rest).map ((next - 1) :: ·)
      else .error (.badEscape next)
    else (unescapeEach (next :: rest)).map (b :: ·)

/-- Reads an escaped byte string. One without escapes stands for itself. -/
def unescape (b : Bytes) : Except CodecError Bytes :=
  if b.contains escapeByte then unescapeEach b else .ok b

/-! ## Strings with and without escapes -/

/-- Writing byte by byte leaves a string as it is if nothing in it is to be escaped. -/
theorem escapeEach_of_plain {b : Bytes} (h : b.any mustEscape = false) : escapeEach b = b := by
  induction b with
  | nil => rfl
  | cons x rest ih =>
      rw [List.any_cons, Bool.or_eq_false_iff] at h
      simp [escapeEach, h.1, ih h.2]

/-- Both ways of writing a string agree. -/
theorem escape_eq_escapeEach (b : Bytes) : escape b = escapeEach b := by
  unfold escape
  split
  · rfl
  · next h => exact (escapeEach_of_plain (by simpa using h)).symm

theorem unescapeEach_cons {b : UInt8} (h : b ≠ escapeByte) (rest : Bytes) :
    unescapeEach (b :: rest) = (unescapeEach rest).map (b :: ·) := by
  cases rest with
  | nil => simp [unescapeEach, h, Except.map]
  | cons next rest => simp [unescapeEach, h]

/-- Reading byte by byte leaves a string as it is if it has no escapes. -/
theorem unescapeEach_of_plain {b : Bytes} (h : escapeByte ∉ b) : unescapeEach b = .ok b := by
  induction b with
  | nil => rfl
  | cons x rest ih =>
      rw [List.mem_cons, not_or] at h
      rw [unescapeEach_cons (Ne.symm h.1), ih h.2]
      rfl

/-- Both ways of reading a string agree. -/
theorem unescape_eq_unescapeEach (b : Bytes) : unescape b = unescapeEach b := by
  unfold unescape
  split
  · rfl
  · next h => exact (unescapeEach_of_plain (by simpa using h)).symm

/-! ## Writing and reading back -/

/-- Only zero and one are escaped. -/
theorem mustEscape_iff {b : UInt8} : mustEscape b = true ↔ b = 0 ∨ b = 1 := by
  simp only [mustEscape, decide_eq_true_eq, UInt8.le_iff_toNat_le, ← UInt8.toNat_inj]
  show b.toNat ≤ 1 ↔ b.toNat = 0 ∨ b.toNat = 1
  omega

theorem unescape_escape (b : Bytes) : unescape (escape b) = .ok b := by
  rw [unescape_eq_unescapeEach, escape_eq_escapeEach]
  induction b with
  | nil => rfl
  | cons x rest ih =>
      by_cases hx : mustEscape x = true
      · rcases mustEscape_iff.mp hx with rfl | rfl <;>
          simp [escapeEach, mustEscape, unescapeEach, escapeByte, ih, Except.map]
      · have hne : x ≠ escapeByte := by
          rintro rfl
          exact hx rfl
        simp [escapeEach, hx, unescapeEach_cons hne, ih, Except.map]

/-- An escaped byte string contains no zero byte. -/
theorem zero_notMem_escape (b : Bytes) : 0 ∉ escape b := by
  rw [escape_eq_escapeEach]
  induction b with
  | nil => simp [escapeEach]
  | cons x rest ih =>
      by_cases hx : mustEscape x = true
      · rcases mustEscape_iff.mp hx with rfl | rfl <;>
          simp [escapeEach, mustEscape, escapeByte, ih]
      · have hne : (0 : UInt8) ≠ x := by
          rintro rfl
          exact hx rfl
        simp [escapeEach, hx, ih, hne]

end PagedTables
