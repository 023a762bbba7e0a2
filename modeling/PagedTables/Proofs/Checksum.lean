/-
# Errors that a check value detects

A step of the shift register is linear and forgets nothing, and up to four bytes enter the
register as one number. So strings that differ in at most four consecutive bytes leave different
registers. A string followed by its own check value always leaves the same register: with it, an
error may also lie in the check value, or across its start.

* `Crc32.shift_xor`, `Crc32.shift_injective` : one step of the register;
* `Crc32.run_eq_iterate_shift` : up to four bytes at once;
* `Crc32.run_append_check` : a string with its check value;
* `Crc32.eq_of_run_append_eq` : strings that differ in a few consecutive bytes only.
-/
import Mathlib
import PagedTables.Checksum
import PagedTables.Proofs.Bytes

namespace PagedTables

namespace Crc32

/-! ## One step -/

/-- The lowest bit is shifted out, and says whether the polynomial is added. -/
theorem toNat_shift (r : UInt32) :
    (shift r).toNat = r.toNat / 2 ^^^ if r.toNat % 2 = 1 then polynomial.toNat else 0 := by
  have hlow : (r &&& 1).toNat = r.toNat % 2 := by
    rw [UInt32.toNat_and]
    exact Nat.and_one_is_mod r.toNat
  have hodd : r &&& 1 = 1 ↔ r.toNat % 2 = 1 := by
    rw [← UInt32.toNat_inj, hlow]
    rfl
  have hhalf : (r >>> 1).toNat = r.toNat / 2 := by
    rw [UInt32.toNat_shiftRight]
    exact Nat.shiftRight_one r.toNat
  unfold shift
  by_cases h : r &&& 1 = 1
  · rw [if_pos h, if_pos (hodd.mp h), UInt32.toNat_xor, hhalf]
  · rw [if_neg h, if_neg (mt hodd.mpr h), Nat.xor_zero, hhalf]

/-- A step is linear. -/
theorem shift_xor (r s : UInt32) : shift (r ^^^ s) = shift r ^^^ shift s := by
  have hhalf : (r.toNat ^^^ s.toNat) / 2 = r.toNat / 2 ^^^ s.toNat / 2 :=
    Nat.xor_div_two_pow (n := 1)
  have hlow : (r.toNat ^^^ s.toNat) % 2 = r.toNat % 2 ^^^ s.toNat % 2 :=
    Nat.xor_mod_two_pow (n := 1)
  apply UInt32.toNat_inj.mp
  rw [UInt32.toNat_xor, toNat_shift, toNat_shift, toNat_shift, UInt32.toNat_xor, hhalf, hlow]
  generalize polynomial.toNat = p
  rcases Nat.mod_two_eq_zero_or_one r.toNat with hr | hr <;>
    rcases Nat.mod_two_eq_zero_or_one s.toNat with hs | hs <;> simp [hr, hs]
  · ac_rfl
  · ac_rfl
  -- both lose a bit, and what they add cancels out
  · rw [Nat.xor_assoc, Nat.xor_comm p, Nat.xor_assoc, Nat.xor_self, Nat.xor_zero]

/-- A step loses nothing: the polynomial has its highest bit set, and halves do not. -/
theorem shift_injective : Function.Injective shift := by
  intro r s h
  have hzero : (shift (r ^^^ s)).toNat = 0 := by
    rw [shift_xor, h, UInt32.xor_self]
    rfl
  rw [toNat_shift, Nat.xor_eq_zero_iff] at hzero
  have hlt := (r ^^^ s).toNat_lt
  rw [← UInt32.xor_eq_zero_iff, ← UInt32.toNat_inj]
  show (r ^^^ s).toNat = 0
  by_cases hodd : (r ^^^ s).toNat % 2 = 1
  · rw [if_pos hodd] at hzero
    have hpoly : polynomial.toNat = 3988292384 := rfl
    omega
  · rw [if_neg hodd] at hzero
    omega

/-- Shifting an even register halves it. -/
theorem shift_double {n : Nat} (h : 2 * n < 2 ^ 32) :
    shift (UInt32.ofNat (2 * n)) = UInt32.ofNat n := by
  have hn : n < 2 ^ 32 := by omega
  apply UInt32.toNat_inj.mp
  rw [toNat_shift, UInt32.toNat_ofNat_of_lt' h, UInt32.toNat_ofNat_of_lt' hn,
    Nat.mul_div_cancel_left n Nat.two_pos, Nat.mul_mod_right, if_neg Nat.zero_ne_one, Nat.xor_zero]

/-! ## Several steps -/

/-- Shifting any number of times goes through an exclusive or. -/
theorem iterate_shift_xor (k : Nat) (r s : UInt32) :
    shift^[k] (r ^^^ s) = shift^[k] r ^^^ shift^[k] s := by
  induction k generalizing r s with
  | zero => rfl
  | succ k ih =>
    rw [Function.iterate_succ_apply, shift_xor, ih]
    rfl

/-- As long as zeros are shifted out, steps only shift. -/
theorem iterate_shift_mul {k n : Nat} (h : 2 ^ k * n < 2 ^ 32) :
    shift^[k] (UInt32.ofNat (2 ^ k * n)) = UInt32.ofNat n := by
  induction k generalizing n with
  | zero =>
    rw [Nat.pow_zero, Nat.one_mul]
    rfl
  | succ k ih =>
    have hdouble : 2 ^ (k + 1) * n = 2 * (2 ^ k * n) := by
      rw [Nat.pow_succ]
      ring
    rw [hdouble] at h ⊢
    rw [Function.iterate_succ_apply, shift_double h, ih (by omega)]

/-! ## Bytes -/

/-- A byte enters the low end of the register, and eight bits are shifted out. -/
theorem feed_eq (r : UInt32) (b : UInt8) : feed r b = shift^[8] (r ^^^ b.toUInt32) := rfl

/-- Different registers stay different, whatever is fed to them. -/
theorem run_injective (b : Bytes) : Function.Injective fun r => run r b := by
  induction b with
  | nil => exact Function.injective_id
  | cons x rest ih =>
    intro r s h
    have hfeed : feed r x = feed s x := ih h
    exact (UInt32.xor_left_inj x.toUInt32).mp (shift_injective.iterate 8 hfeed)

/-- Four bytes as a word: the first one is the low end, and the others are above it. -/
theorem ofNat_toNatLE_cons (x : UInt8) (rest : Bytes) :
    UInt32.ofNat (Bytes.toNatLE (x :: rest)) =
      x.toUInt32 ^^^ UInt32.ofNat (2 ^ 8 * Bytes.toNatLE rest) := by
  have hlt : x.toNat < 2 ^ 8 := x.toNat_lt
  -- the two numbers have no bit in common
  have hsum : x.toNat ^^^ 2 ^ 8 * Bytes.toNatLE rest = Bytes.toNatLE (x :: rest) := by
    rw [← Nat.div_add_mod (x.toNat ^^^ _) (2 ^ 8), Nat.xor_div_two_pow, Nat.xor_mod_two_pow,
      Nat.div_eq_of_lt hlt, Nat.mod_eq_of_lt hlt, Nat.mul_div_cancel_left _ (Nat.two_pow_pos 8),
      Nat.mul_mod_right, Nat.zero_xor, Nat.xor_zero, Nat.add_comm]
    rfl
  rw [← hsum, UInt32.ofNat_xor, UInt32.ofNat_uInt8ToNat]

/-- Up to four bytes are taken in as one number. -/
theorem run_eq_iterate_shift (r : UInt32) {b : Bytes} (h : b.length ≤ 4) :
    run r b = shift^[8 * b.length] (r ^^^ UInt32.ofNat (Bytes.toNatLE b)) := by
  induction b generalizing r with
  | nil => exact UInt32.xor_zero.symm
  | cons x rest ih =>
    rw [List.length_cons] at h
    have hword : 2 ^ 8 * Bytes.toNatLE rest < 2 ^ 32 := by
      have hlt := Bytes.toNatLE_lt rest
      have hle : 256 ^ rest.length ≤ 256 ^ 3 := Nat.pow_le_pow_right (by decide) (by omega)
      omega
    calc run r (x :: rest) = run (feed r x) rest := rfl
      _ = shift^[8 * rest.length] (shift^[8] (r ^^^ x.toUInt32) ^^^
            UInt32.ofNat (Bytes.toNatLE rest)) := by rw [ih _ (by omega), feed_eq]
      _ = shift^[8 * rest.length] (shift^[8] (r ^^^ x.toUInt32 ^^^
            UInt32.ofNat (2 ^ 8 * Bytes.toNatLE rest))) := by
        rw [iterate_shift_xor 8 (r ^^^ _), iterate_shift_mul hword]
      _ = shift^[8 * (x :: rest).length] (r ^^^ UInt32.ofNat (Bytes.toNatLE (x :: rest))) := by
        rw [← Function.iterate_add_apply, UInt32.xor_assoc, ← ofNat_toNatLE_cons,
          List.length_cons, Nat.mul_succ]

/-- Up to four bytes can be told from the register. -/
theorem eq_of_run_eq {r : UInt32} {b c : Bytes} (hb : b.length ≤ 4) (hc : c.length = b.length)
    (h : run r b = run r c) : b = c := by
  rw [run_eq_iterate_shift r hb, run_eq_iterate_shift r (hc ▸ hb), hc] at h
  have hword := (UInt32.xor_right_inj r).mp (shift_injective.iterate _ h)
  have hbound : 256 ^ b.length ≤ UInt32.size := Nat.pow_le_pow_right (by decide) hb
  have hltb := Bytes.toNatLE_lt b
  have hltc := Bytes.toNatLE_lt c
  rw [hc] at hltc
  have hnum := congrArg UInt32.toNat hword
  rw [UInt32.toNat_ofNat_of_lt' (Nat.lt_of_lt_of_le hltb hbound),
    UInt32.toNat_ofNat_of_lt' (Nat.lt_of_lt_of_le hltc hbound)] at hnum
  rw [← Bytes.ofNatLE_toNatLE b, ← Bytes.ofNatLE_toNatLE c, hnum, hc]

/-- Strings that differ in at most four consecutive bytes can be told from the register, whatever
surrounds these. -/
theorem eq_of_run_append_eq {r : UInt32} {before b c after : Bytes} (hb : b.length ≤ 4)
    (hc : c.length = b.length) (h : run r (before ++ b ++ after) = run r (before ++ c ++ after)) :
    b = c := by
  rw [run_append, run_append, run_append, run_append] at h
  exact eq_of_run_eq hb hc (run_injective after h)

/-! ## Check values -/

/-- The register that a string with its own check value leaves. -/
def residue : UInt32 :=
  shift^[32] 0xFFFFFFFF

/-- **A string with its own check value** leaves the same register, whatever it is. -/
theorem run_append_check {b c : Bytes} (hc : c.length = 4)
    (h : UInt32.ofNat (Bytes.toNatLE c) = checksum b) : run 0xFFFFFFFF (b ++ c) = residue := by
  have hcancel : run 0xFFFFFFFF b ^^^ checksum b = 0xFFFFFFFF := by
    rw [checksum, ← UInt32.xor_assoc, UInt32.xor_self, UInt32.zero_xor]
  rw [run_append, run_eq_iterate_shift _ hc.le, hc, h, hcancel]
  rfl

end Crc32

/-- The check value of the digits from 1 to 9, as the standard states it. -/
example : checksum [0x31, 0x32, 0x33, 0x34, 0x35, 0x36, 0x37, 0x38, 0x39] = 0xCBF43926 := by
  decide +kernel

end PagedTables
