/-
# Byte strings

Byte strings are lists of bytes, so that every stored format is defined by recursion on its
own bytes.

* `Bytes.ofNatLE_toNatLE` : bytes read as a number are written back as they were;
* `Bytes.length_overwrite` : overwriting inside a byte string keeps its length.
-/

namespace PagedTables

/-- A byte string. -/
abbrev Bytes := List UInt8

namespace Bytes

/-! ## Fixed-width numbers -/

/-- The low `8 * width` bits of a number, least significant byte first. -/
def ofNatLE : Nat → Nat → Bytes
  | 0, _ => []
  | width + 1, n => UInt8.ofNat n :: ofNatLE width (n / 256)

/-- The number spelled by bytes, least significant byte first. -/
def toNatLE : Bytes → Nat
  | [] => 0
  | b :: rest => b.toNat + 256 * toNatLE rest

/-- The low `8 * width` bits of a number, most significant byte first. -/
def ofNatBE (width n : Nat) : Bytes :=
  (ofNatLE width n).reverse

/-- The number spelled by bytes, most significant byte first. -/
def toNatBE (b : Bytes) : Nat :=
  toNatLE b.reverse

@[simp] theorem length_ofNatLE (width n : Nat) : (ofNatLE width n).length = width := by
  induction width generalizing n with
  | zero => rfl
  | succ width ih => simp [ofNatLE, ih]

@[simp] theorem length_ofNatBE (width n : Nat) : (ofNatBE width n).length = width := by
  simp [ofNatBE]

theorem ofNatLE_toNatLE (b : Bytes) : ofNatLE b.length (toNatLE b) = b := by
  induction b with
  | nil => rfl
  | cons x rest ih =>
      have hx := x.toNat_lt
      have h1 : UInt8.ofNat (x.toNat + 256 * toNatLE rest) = x := by
        apply UInt8.toNat_inj.mp
        simp only [UInt8.toNat_ofNat']
        omega
      have h2 : (x.toNat + 256 * toNatLE rest) / 256 = toNatLE rest := by omega
      simp [ofNatLE, toNatLE, h1, h2, ih]

theorem ofNatBE_toNatBE (b : Bytes) : ofNatBE b.length (toNatBE b) = b := by
  have h := ofNatLE_toNatLE b.reverse
  rw [List.length_reverse] at h
  simp [toNatBE, ofNatBE, h]

/-! ## Runs of bytes -/

/-- A run of `n` zero bytes. -/
def zeros (n : Nat) : Bytes :=
  List.replicate n 0

/-- The `len` bytes from position `off`, fewer where the string ends sooner. -/
def slice (b : Bytes) (off len : Nat) : Bytes :=
  (b.drop off).take len

/-- Writes `patch` over the bytes from position `off`. The string grows where the patch runs
past its end, and a gap before the patch is filled with zeros. -/
def overwrite (b : Bytes) (off : Nat) (patch : Bytes) : Bytes :=
  b.take off ++ zeros (off - b.length) ++ patch ++ b.drop (off + patch.length)

/-- Cuts the string to `len` bytes, or extends it to that length with zeros. -/
def resize (b : Bytes) (len : Nat) : Bytes :=
  b.take len ++ zeros (len - b.length)

@[simp] theorem length_zeros (n : Nat) : (zeros n).length = n := by
  simp [zeros]

theorem length_overwrite {b : Bytes} {off : Nat} {patch : Bytes}
    (h : off + patch.length ≤ b.length) : (b.overwrite off patch).length = b.length := by
  simp only [overwrite, List.length_append, List.length_take, List.length_drop, length_zeros]
  omega

@[simp] theorem length_resize (b : Bytes) (len : Nat) : (b.resize len).length = len := by
  simp only [resize, List.length_append, List.length_take, length_zeros]
  omega

/-- Cuts a string into pieces of `size` bytes, the last one possibly shorter. -/
def chunks (size : Nat) (b : Bytes) : List Bytes :=
  go b.length b
where
  /-- At most `fuel` pieces of the remaining bytes. -/
  go : Nat → Bytes → List Bytes
    | 0, _ => []
    | _ + 1, [] => []
    | fuel + 1, x :: rest => (x :: rest).take size :: go fuel ((x :: rest).drop size)

end Bytes

end PagedTables
