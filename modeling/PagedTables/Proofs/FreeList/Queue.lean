/-
# The queue in the pages

What a free list holds can be read off its pages: the nodes by following the links from the
head, the items from the slots of these nodes.

* `FreeList.nodes`, `FreeList.items` : the nodes and the items of a list;
* `FreeList.Tracks.nodes_eq`, `FreeList.Tracks.items_eq` : they are the rest of the history.
-/
import PagedTables.Proofs.FreeList.History

namespace PagedTables

namespace FreeList

/-! ## Reading a list -/

/-- The node that is reached from the head by following links. -/
def nodeAt (l : FreeList) (page : PageId → Bytes) : Nat → PageId
  | 0 => l.headPage
  | k + 1 => FreeNode.link (page (l.nodeAt page k))

/-- The nodes from that of the oldest item to that of the next new one, by following links. -/
def nodes (l : FreeList) (page : PageId → Bytes) : List PageId :=
  (List.range (l.nodeIndex l.tailSeq - l.nodeIndex l.headSeq + 1)).map (l.nodeAt page)

/-- The item with a sequence number, in its slot of its node. -/
def itemAt (l : FreeList) (page : PageId → Bytes) (s : Nat) : PageId :=
  FreeNode.slot (page (l.nodeAt page (l.nodeIndex s - l.nodeIndex l.headSeq))) (l.index s)

/-- The items of the list, the oldest one first. -/
def items (l : FreeList) (page : PageId → Bytes) : List PageId :=
  (List.range' l.headSeq (l.tailSeq - l.headSeq)).map (l.itemAt page)

/-- There is a node for each that the items reach, and at least one. -/
@[simp] theorem length_nodes (l : FreeList) (page : PageId → Bytes) :
    (l.nodes page).length = l.nodeIndex l.tailSeq - l.nodeIndex l.headSeq + 1 := by
  rw [nodes, List.length_map, List.length_range]

/-- The first node is the head. -/
theorem nodes_head? (l : FreeList) (page : PageId → Bytes) :
    (l.nodes page).head? = some l.headPage := by
  rw [nodes, List.range_succ_eq_map, List.map_cons]
  rfl

/-- There are as many items as have entered and not left. -/
@[simp] theorem length_items (l : FreeList) (page : PageId → Bytes) :
    (l.items page).length = l.tailSeq - l.headSeq := by
  rw [items, List.length_map, List.length_range']

/-! ## The list and its history -/

namespace Tracks

variable {l : FreeList} {page : PageId → Bytes} {count : Nat} {h : FreeHistory}
variable {loose held : List PageId} {id s k : Nat}
variable (ht : l.Tracks page count h loose held)
include ht

/-- Following `k` links leads `k` nodes further. -/
theorem nodeAt_eq (hk : l.nodeIndex l.headSeq + k < h.nodes.length) :
    h.nodes[l.nodeIndex l.headSeq + k]? = some (l.nodeAt page k) := by
  induction k with
  | zero => exact ht.headPage_eq
  | succ k ih =>
    have hprev := ih (by omega)
    have hnext := List.getElem?_eq_getElem hk
    have hlink := ht.link_eq _ _ _
      (Nat.le_trans (nodeIndex_mono ht.kept_le) (Nat.le_add_right _ k)) hprev hnext
    rw [nodeAt, hlink]
    exact hnext

/-- The nodes of the list are the last ones of its history. -/
theorem nodes_eq (hroom : l.tailSeq < h.nodes.length * l.capacity) :
    l.nodes page = h.nodes.drop (l.nodeIndex l.headSeq) := by
  have hlast := ht.nodeIndex_tailSeq hroom
  have hhead := ht.nodeIndex_headSeq_lt
  apply List.ext_getElem?
  intro k
  rw [nodes, List.getElem?_map, List.getElem?_drop]
  by_cases hk : l.nodeIndex l.headSeq + k < h.nodes.length
  · rw [ht.nodeAt_eq hk, List.getElem?_range (by omega)]
    rfl
  · rw [List.getElem?_eq_none (by rw [List.length_range]; omega), List.getElem?_eq_none (by omega)]
    rfl

/-- An item that has not left is in the slot of its sequence number. -/
theorem itemAt_eq (hs : l.headSeq ≤ s) (hid : h.entered[s]? = some id) :
    l.itemAt page s = id := by
  have htail := ht.tailSeq_eq
  have hlen := (List.getElem?_eq_some_iff.mp hid).1
  have hmono := nodeIndex_mono (l := l) hs
  have hlt : l.nodeIndex s < h.nodes.length := by
    rw [nodeIndex_lt_iff ht.two_le_capacity]
    have := ht.tailSeq_le
    omega
  have hnode := ht.nodeAt_eq (k := l.nodeIndex s - l.nodeIndex l.headSeq)
    (by rw [Nat.add_sub_cancel' hmono]; exact hlt)
  rw [Nat.add_sub_cancel' hmono] at hnode
  exact ht.slot_eq s id _ (Nat.le_trans ht.kept_le hs) hid hnode

/-- The items of the list are those that entered and have not left. -/
theorem items_eq : l.items page = h.entered.drop l.headSeq := by
  have htail := ht.tailSeq_eq
  apply List.ext_getElem?
  intro k
  rw [items, List.getElem?_map, List.getElem?_drop]
  by_cases hk : l.headSeq + k < h.entered.length
  · have hid := List.getElem?_eq_getElem hk
    rw [List.getElem?_range' (by omega), Nat.one_mul, hid, Option.map_some,
      ht.itemAt_eq (Nat.le_add_right _ k) hid]
  · rw [List.getElem?_eq_none (by rw [List.length_range']; omega),
      List.getElem?_eq_none (by omega)]
    rfl

theorem nodes_getLast? (hroom : l.tailSeq < h.nodes.length * l.capacity) :
    (l.nodes page).getLast? = some l.tailPage := by
  have hhead := ht.nodeIndex_headSeq_lt
  rw [ht.nodes_eq hroom, List.getLast?_drop, if_neg (by omega), ht.tailPage_eq]

/-- Every page but the meta page is held, a node or an item. -/
theorem owners (hroom : l.tailSeq < h.nodes.length * l.capacity) :
    (loose ++ held ++ l.nodes page ++ l.items page).Perm (List.range' 1 (count - 1)) := by
  rw [ht.nodes_eq hroom, ht.items_eq]
  exact ht.partition

end Tracks

end FreeList

end PagedTables
