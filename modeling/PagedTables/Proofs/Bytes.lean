/-
# Numbers and runs of bytes

Reading back a number that was written, reading a run of bytes after another one was written,
and byte strings that mix two others.

* `Bytes.toNatLE_ofNatLE` : a number written in `width` bytes reads back modulo `256 ^ width`;
* `Bytes.slice_overwrite` : what was written is read back;
* `Bytes.slice_overwrite_of_disjoint` : all else stays as it was;
* `Bytes.slice_eq_of_mixed` : where two strings agree, every mixture of them agrees too.
-/
import Mathlib
import PagedTables.Page.Id

namespace PagedTables

namespace Bytes

/-! ## Fixed-width numbers -/

/-- A number that is spelled with `n` bytes is below `256 ^ n`. -/
theorem toNatLE_lt (b : Bytes) : toNatLE b < 256 ^ b.length := by
  induction b with
  | nil => simp [toNatLE]
  | cons x rest ih =>
    have hx := x.toNat_lt
    simp only [toNatLE, List.length_cons, Nat.pow_succ]
    omega

/-- A number is read back as far as its bytes reach, the lowest byte first. -/
theorem toNatLE_ofNatLE (width n : Nat) : toNatLE (ofNatLE width n) = n % 256 ^ width := by
  induction width generalizing n with
  | zero => simp [ofNatLE, toNatLE, Nat.mod_one]
  | succ width ih =>
    simp only [ofNatLE, toNatLE, ih, UInt8.toNat_ofNat']
    rw [show (256 : Nat) ^ (width + 1) = 256 * 256 ^ width by
      rw [Nat.pow_succ, Nat.mul_comm], Nat.mod_mul]

/-- A number is read back as far as its bytes reach, the highest byte first. -/
theorem toNatBE_ofNatBE (width n : Nat) : toNatBE (ofNatBE width n) = n % 256 ^ width := by
  simp [toNatBE, ofNatBE, toNatLE_ofNatLE]

/-! ## Slices -/

variable {a b m patch : Bytes} {off len pos n i : Nat}

theorem getElem?_slice : (b.slice off len)[i]? = if i < len then b[off + i]? else none := by
  rw [slice, List.getElem?_take, List.getElem?_drop]

theorem length_slice (h : off + len ≤ b.length) : (b.slice off len).length = len := by
  rw [slice, List.length_take, List.length_drop]
  omega

/-- A slice of a slice. -/
theorem slice_slice (h : pos + n ≤ len) :
    (b.slice off len).slice pos n = b.slice (off + pos) n := by
  apply List.ext_getElem?
  intro i
  rw [getElem?_slice, getElem?_slice, getElem?_slice]
  by_cases hi : i < n
  · rw [if_pos hi, if_pos (by omega), if_pos hi, Nat.add_assoc]
  · rw [if_neg hi, if_neg hi]

/-- Strings that agree on a run of positions have the same slice there. -/
theorem slice_congr (h : ∀ i : Nat, off ≤ i → i < off + len → a[i]? = b[i]?) :
    a.slice off len = b.slice off len := by
  apply List.ext_getElem?
  intro i
  rw [getElem?_slice, getElem?_slice]
  by_cases hi : i < len
  · rw [if_pos hi, if_pos hi, h (off + i) (by omega) (by omega)]
  · rw [if_neg hi, if_neg hi]

/-- Strings with the same slice agree on its positions. -/
theorem getElem?_of_slice_eq (h : a.slice off len = b.slice off len) (hi : off ≤ i)
    (hlen : i < off + len) : a[i]? = b[i]? := by
  have hget := congrArg (fun l : Bytes => l[i - off]?) h
  simp only [getElem?_slice] at hget
  rwa [if_pos (by omega), if_pos (by omega), Nat.add_sub_cancel' hi] at hget

/-- Where two strings agree, every byte-wise mixture of them agrees too. -/
theorem slice_eq_of_mixed (hab : a.slice off len = b.slice off len)
    (hm : ∀ i : Nat, m[i]? = a[i]? ∨ m[i]? = b[i]?) : m.slice off len = a.slice off len := by
  apply slice_congr
  intro i hi hlen
  rcases hm i with h | h
  · exact h
  · rw [h, getElem?_of_slice_eq hab hi hlen]

/-! ## Overwriting -/

/-- Overwriting makes a string longer only where the patch reaches beyond its end. -/
theorem length_overwrite_eq_max :
    (b.overwrite off patch).length = max b.length (off + patch.length) := by
  simp only [overwrite, List.length_append, List.length_take, List.length_drop, length_zeros]
  omega

/-- The bytes after overwriting: those before the patch with zeros in a gap, the patch, and the
bytes behind it. -/
theorem getElem?_overwrite :
    (b.overwrite off patch)[i]? =
      if i < off then some (b[i]?.getD 0)
      else if i < off + patch.length then patch[i - off]? else b[i]? := by
  simp only [overwrite, zeros, List.append_assoc]
  rw [List.getElem?_append, List.getElem?_append, List.getElem?_append]
  rw [List.length_take, List.length_replicate]
  by_cases h1 : i < off
  · rw [if_pos h1]
    by_cases h2 : i < b.length
    · rw [if_pos (by omega), List.getElem?_take, if_pos h1, List.getElem?_eq_getElem h2,
        Option.getD_some]
    · rw [if_neg (by omega), if_pos (by omega), List.getElem?_replicate, if_pos (by omega),
        List.getElem?_eq_none (by omega), Option.getD_none]
  · rw [if_neg h1, if_neg (by omega), if_neg (by omega)]
    have hpos : i - min off b.length - (off - b.length) = i - off := by omega
    rw [hpos]
    by_cases h2 : i < off + patch.length
    · rw [if_pos (by omega), if_pos h2]
    · rw [if_neg (by omega), if_neg h2, List.getElem?_drop]
      congr 1
      omega

/-- What was written is read back. -/
theorem slice_overwrite : (b.overwrite off patch).slice off patch.length = patch := by
  apply List.ext_getElem?
  intro i
  rw [getElem?_slice, getElem?_overwrite]
  by_cases hi : i < patch.length
  · rw [if_pos hi, if_neg (by omega), if_pos (by omega), Nat.add_sub_cancel_left]
  · rw [if_neg hi, List.getElem?_eq_none (by omega)]

/-- A string that is overwritten at its start begins like the patch. -/
theorem take_overwrite (h : n ≤ patch.length) : (b.overwrite 0 patch).take n = patch.take n := by
  have hslice : (b.overwrite 0 patch).slice 0 patch.length = patch := slice_overwrite
  rw [slice, List.drop_zero] at hslice
  rw [← Nat.min_eq_left h, ← List.take_take, hslice, Nat.min_eq_left h]

/-- A slice apart from the patch stays as it was. -/
theorem slice_overwrite_of_disjoint (hlen : pos + len ≤ b.length)
    (h : pos + len ≤ off ∨ off + patch.length ≤ pos) :
    (b.overwrite off patch).slice pos len = b.slice pos len := by
  apply slice_congr
  intro i hi hi'
  rw [getElem?_overwrite]
  rcases h with h | h
  · rw [if_pos (by omega), List.getElem?_eq_getElem (by omega), Option.getD_some]
  · rw [if_neg (by omega), if_neg (by omega)]

end Bytes

theorem PageId.length_toBytes (id : PageId) : id.toBytes.length = 8 :=
  Bytes.length_ofNatLE 8 id

/-- A link that fits 64 bits is read back. -/
theorem PageId.ofBytes_toBytes {id : PageId} (h : id < 2 ^ 64) : ofBytes (toBytes id) = id := by
  rw [ofBytes, toBytes, Bytes.toNatLE_ofNatLE]
  exact Nat.mod_eq_of_lt (by simpa [width] using h)

end PagedTables
