/-
# Damaged meta pages are noticed

A meta page in which a few consecutive bytes were changed is not accepted any more, wherever
these bytes are: in the signature, in the fields, in the check value, or across its start.

* `Bytes.Burst` : strings that differ in a few consecutive bytes;
* `MetaPage.run_take_size` : the check value of a meta page that is accepted;
* `MetaPage.burst_detected` : changes that are reported as damage.
-/
import PagedTables.Proofs.Checksum
import PagedTables.Proofs.Meta

namespace PagedTables

/-! ## Bursts -/

namespace Bytes

/-- The strings are equally long and differ, but only among the `n` bytes from position `off`. -/
structure Burst (off n : Nat) (a b : Bytes) : Prop where
  length_eq : b.length = a.length
  ne : b ≠ a
  same : ∀ i : Nat, i < off ∨ off + n ≤ i → b[i]? = a[i]?

variable {a b : Bytes} {off n len : Nat}

/-- Bytes before a burst and behind it are as they were. -/
theorem Burst.slice_eq (h : Burst off n a b) {pos k : Nat} (hpos : pos + k ≤ off ∨ off + n ≤ pos) :
    b.slice pos k = a.slice pos k := by
  apply slice_congr
  intro i hi hi'
  exact h.same i (by omega)

/-- The bytes of a burst are not as they were. -/
theorem Burst.slice_ne (h : Burst off n a b) : b.slice off n ≠ a.slice off n := by
  intro heq
  apply h.ne
  apply List.ext_getElem?
  intro i
  by_cases hin : off ≤ i ∧ i < off + n
  · exact getElem?_of_slice_eq heq hin.1 hin.2
  · exact h.same i (by omega)

/-- A burst cuts a string into three parts. -/
theorem take_eq_slices (h : off + n ≤ len) :
    b.take len = b.slice 0 off ++ b.slice off n ++ b.slice (off + n) (len - (off + n)) := by
  have hstart : b.slice 0 off = b.take off := rfl
  rw [hstart, take_append_slice, take_append_slice, Nat.add_sub_cancel' h]

end Bytes

/-! ## Meta pages -/

namespace MetaPage

variable {m : MetaPage} {page other : Bytes} {off n : Nat}

/-- All meta pages that are accepted leave the same register. -/
theorem run_take_size (h : decode page = .ok m) :
    Crc32.run 0xFFFFFFFF (page.take size) = Crc32.residue := by
  obtain ⟨hlen, htake, -⟩ := decode_eq_ok_iff.mp h
  rw [htake, sealed]
  apply Crc32.run_append_check (Bytes.length_ofNatLE 4 _)
  have hlt : (checksum m.body).toNat < 256 ^ 4 := (checksum m.body).toNat_lt
  rw [Bytes.toNatLE_ofNatLE, Nat.mod_eq_of_lt hlt, UInt32.ofNat_toNat]

/-- A changed page cannot be accepted if the one that was changed was. -/
theorem decode_ne_ok_of_burst (h : decode page = .ok m) (hn : n ≤ 4) (hoff : off + n ≤ size)
    (hburst : Bytes.Burst off n page other) (m' : MetaPage) : decode other ≠ .ok m' := by
  intro h'
  have hrun := (run_take_size h').trans (run_take_size h).symm
  rw [Bytes.take_eq_slices hoff, Bytes.take_eq_slices hoff, hburst.slice_eq (.inl (by omega)),
    hburst.slice_eq (.inr (Nat.le_refl _))] at hrun
  have hlen := (decode_eq_ok_iff.mp h).1
  have hlen' := (decode_eq_ok_iff.mp h').1
  have hslice := Bytes.length_slice (Nat.le_trans hoff hlen)
  have hslice' := Bytes.length_slice (Nat.le_trans hoff hlen')
  exact hburst.slice_ne
    (Crc32.eq_of_run_append_eq (hslice'.trans_le hn) (hslice.trans hslice'.symm) hrun)

/-- **A burst is noticed.** A meta page that is written over a page is read back. If then at most
four consecutive bytes of it are changed, in whatever way, the page is reported as damaged. -/
theorem burst_detected (hm : ∃ b, decode b = .ok m) (hlen : size ≤ page.length) :
    decode (m.encode page) = .ok m ∧
      ∀ (off n : Nat) (other : Bytes), n ≤ 4 → off + n ≤ size →
        Bytes.Burst off n (m.encode page) other →
        ∃ e, decode other = .error e ∧ e.isDamage = true := by
  obtain ⟨b, hb⟩ := hm
  have hdecode : decode (m.encode page) = .ok m :=
    decode_of_take (hlen.trans_eq (m.length_encode hlen).symm) take_encode
      (decode_eq_ok_iff.mp hb).2.2
  refine ⟨hdecode, fun off n other hn hoff hburst => ?_⟩
  exact (reportsDamage_decode other).exists_error (decode_ne_ok_of_burst hdecode hn hoff hburst)

/-- The last two bytes of the fields and the first two of the check value are changed such that
the new fields would be valid. -/
theorem burst_detected_of_straddling :
    let m : MetaPage := ⟨256, 10, 4, 17, 1, 3, 7, 40⟩
    let page : Bytes := m.encode (Bytes.zeros 128)
    let other : Bytes := page.overwrite 74 [1, 2, 3, 4]
    (∃ b, decode b = .ok m) ∧ size ≤ (Bytes.zeros 128).length ∧ decode page = .ok m ∧
      Bytes.Burst 74 4 page other ∧ (fields other).check = .ok () ∧
      ∃ e, decode other = .error e ∧ e.isDamage = true := by
  intro m page other
  have hlen : size ≤ (Bytes.zeros 128).length := by
    rw [Bytes.length_zeros]
    decide
  have hpage : page.length = 128 := m.length_encode hlen
  have hm : ∃ b, decode b = .ok m := by
    refine ⟨page, decode_eq_ok_iff.mpr ⟨?_, take_encode, by decide⟩⟩
    rw [hpage]
    decide
  have hbyte : ∀ i, other[i]? = if i < 74 then some (page[i]?.getD 0)
      else if i < 78 then ([1, 2, 3, 4] : Bytes)[i - 74]? else page[i]? :=
    fun _ => Bytes.getElem?_overwrite
  have hburst : Bytes.Burst 74 4 page other := by
    refine ⟨Bytes.length_overwrite (by rw [hpage]; decide), fun heq => ?_, fun i hi => ?_⟩
    · have h74 : page[74]? = some 1 := (heq ▸ hbyte 74 : page[74]? = some 1)
      have hfields : page[74]? = some 0 := by decide +kernel
      rw [h74] at hfields
      cases hfields
    · rw [hbyte]
      rcases hi with hi | hi
      · rw [if_pos hi, List.getElem?_eq_getElem (by omega), Option.getD_some]
      · rw [if_neg (by omega), if_neg (Nat.not_lt.mpr hi)]
  obtain ⟨hdecode, hbursts⟩ := burst_detected hm hlen
  exact ⟨hm, hlen, hdecode, hburst, by decide +kernel,
    hbursts 74 4 other (Nat.le_refl _) (by decide) hburst⟩

end MetaPage

end PagedTables
