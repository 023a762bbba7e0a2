/-
# Nodes of the free list

A node keeps its link and its slots apart: writing one of them leaves the others as they were.

* `FreeNode.slot_setSlot`, `FreeNode.link_setLink` : what was written is read back;
* `FreeNode.slot_of_mixed`, `FreeNode.link_of_mixed` : where two nodes agree on a slot or on the
  link, every byte-wise mixture of them agrees too.
-/
import PagedTables.Page.FreeList
import PagedTables.Proofs.Bytes

namespace PagedTables

namespace FreeNode

variable {node a b m : Bytes} {i j : Nat} {id : PageId}

/-- The slots lie inside the node, behind the link. -/
theorem slotOffset_add_le (h : i < capacity node.length) :
    slotOffset i + slotSize ≤ node.length := by
  simp only [capacity, slotOffset, headerSize, slotSize] at *
  omega

/-- A node with a slot has room for its link. -/
theorem headerSize_le (h : i < capacity node.length) : headerSize ≤ node.length := by
  simp only [capacity, headerSize, slotSize] at *
  omega

/-! ## Lengths -/

/-- A node stays as long as it is when an item is put into it. -/
theorem length_setSlot (h : i < capacity node.length) :
    (setSlot i id node).length = node.length := by
  apply Bytes.length_overwrite
  rw [PageId.length_toBytes]
  exact slotOffset_add_le h

theorem length_setLink (h : i < capacity node.length) :
    (setLink id node).length = node.length := by
  apply Bytes.length_overwrite
  rw [PageId.length_toBytes, Nat.zero_add]
  exact headerSize_le h

/-! ## Reading what was written -/

/-- An item is read back from its slot. -/
theorem slot_setSlot (h : id < 2 ^ 64) : slot (setSlot i id node) i = id := by
  rw [slot, setSlot, show slotSize = id.toBytes.length from (PageId.length_toBytes id).symm,
    Bytes.slice_overwrite, PageId.ofBytes_toBytes h]

theorem link_setLink (h : id < 2 ^ 64) : link (setLink id node) = id := by
  rw [link, setLink, show headerSize = id.toBytes.length from (PageId.length_toBytes id).symm,
    Bytes.slice_overwrite, PageId.ofBytes_toBytes h]

/-! ## Reading the rest -/

/-- Other slots stay when an item is put into one. -/
theorem slot_setSlot_of_ne (hij : i ≠ j) (hj : j < capacity node.length) :
    slot (setSlot i id node) j = slot node j := by
  rw [slot, setSlot, Bytes.slice_overwrite_of_disjoint (slotOffset_add_le hj), ← slot]
  rw [PageId.length_toBytes]
  simp only [slotOffset, headerSize, slotSize]
  omega

/-- The link stays when an item is put into a slot. -/
theorem link_setSlot (hj : j < capacity node.length) :
    link (setSlot i id node) = link node := by
  rw [link, setSlot, Bytes.slice_overwrite_of_disjoint, ← link]
  · rw [Nat.zero_add]
    exact headerSize_le hj
  · simp only [slotOffset, headerSize, slotSize]
    omega

theorem slot_setLink (hj : j < capacity node.length) :
    slot (setLink id node) j = slot node j := by
  rw [slot, setLink, Bytes.slice_overwrite_of_disjoint (slotOffset_add_le hj), ← slot]
  rw [PageId.length_toBytes]
  simp only [slotOffset, headerSize, slotSize]
  omega

/-! ## The bytes that matter -/

/-- Numbers spelled by equally many bytes agree only if the bytes do. -/
theorem eq_of_ofBytes_eq (hlen : a.length = b.length)
    (h : PageId.ofBytes a = PageId.ofBytes b) : a = b := by
  rw [← Bytes.ofNatLE_toNatLE a, ← Bytes.ofNatLE_toNatLE b, hlen]
  exact congrArg _ h

/-- Where two nodes spell the same number, every byte-wise mixture of them spells it too. -/
theorem ofBytes_slice_of_mixed {off len : Nat} (hlen : a.length = b.length)
    (hm : ∀ n : Nat, m[n]? = a[n]? ∨ m[n]? = b[n]?)
    (h : PageId.ofBytes (a.slice off len) = PageId.ofBytes (b.slice off len)) :
    PageId.ofBytes (m.slice off len) = PageId.ofBytes (a.slice off len) := by
  have hslice : a.slice off len = b.slice off len := by
    apply eq_of_ofBytes_eq _ h
    simp only [Bytes.slice, List.length_take, List.length_drop, hlen]
  rw [Bytes.slice_eq_of_mixed hslice hm]

/-- A slot that is the same in two nodes is so in every mix of their bytes. -/
theorem slot_of_mixed (hlen : a.length = b.length)
    (hm : ∀ n : Nat, m[n]? = a[n]? ∨ m[n]? = b[n]?) (h : slot a i = slot b i) :
    slot m i = slot a i :=
  ofBytes_slice_of_mixed hlen hm h

theorem link_of_mixed (hlen : a.length = b.length)
    (hm : ∀ n : Nat, m[n]? = a[n]? ∨ m[n]? = b[n]?) (h : link a = link b) :
    link m = link a :=
  ofBytes_slice_of_mixed hlen hm h

end FreeNode

end PagedTables
