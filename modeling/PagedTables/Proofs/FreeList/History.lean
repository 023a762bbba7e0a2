/-
# The history of a free list

A free list keeps itself in the pages that it manages: items become nodes, and nodes become
items. The way through this is its history, all items that ever entered and all nodes that it
ever had. The pages hold a part of that history, and every operation only adds to its end.

* `FreeList.Tracks` : the pages hold the part of a history that the list still needs, and every
  page has one owner;
* `FreeList.Tracks.pop`, `FreeList.Tracks.pop_last` : an item leaves;
* `FreeList.Tracks.put` : an item enters;
* `FreeList.Tracks.attach` : the list gets another node.
-/
import Mathlib
import PagedTables.Proofs.FreeList.Node

namespace PagedTables

/-- What happened to a free list so far. -/
structure FreeHistory where
  /-- All items that entered, in order; the sequence number of an item is its position. -/
  entered : List PageId
  /-- All nodes that the list ever had, in order. -/
  nodes : List PageId
  /-- The first sequence number whose slot still has to hold its item. -/
  kept : Nat

namespace FreeList

variable {l : FreeList} {page : PageId → Bytes} {count : Nat} {h : FreeHistory}
variable {loose held : List PageId} {id next k s n : Nat}

/-- The number of the node that holds the slot of a sequence number. -/
def nodeIndex (l : FreeList) (s : Nat) : Nat :=
  s / l.capacity

/-- A node comes before another exactly if its slots do. -/
theorem nodeIndex_lt_iff (hcap : 2 ≤ l.capacity) : l.nodeIndex s < n ↔ s < n * l.capacity :=
  Nat.div_lt_iff_lt_mul (by omega)

/-- Within a node the number of the node stays. -/
theorem nodeIndex_succ_of_ne (h : l.index (s + 1) ≠ 0) :
    l.nodeIndex (s + 1) = l.nodeIndex s := by
  rw [nodeIndex, nodeIndex, Nat.succ_div_of_not_dvd]
  intro hdvd
  exact h (Nat.mod_eq_zero_of_dvd hdvd)

/-- At the first slot of a node the number goes up. -/
theorem nodeIndex_succ_of_eq (h : l.index (s + 1) = 0) :
    l.nodeIndex (s + 1) = l.nodeIndex s + 1 := by
  rw [nodeIndex, nodeIndex, Nat.succ_div_of_dvd (Nat.dvd_of_mod_eq_zero h)]

/-- Later items are in later nodes. -/
theorem nodeIndex_mono {s t : Nat} (h : s ≤ t) : l.nodeIndex s ≤ l.nodeIndex t :=
  Nat.div_le_div_right h

/-- A slot is one of those that a node has. -/
theorem index_lt (hcap : 2 ≤ l.capacity) : l.index s < l.capacity :=
  Nat.mod_lt s (by omega)

/-- Two sequence numbers of one node have different slots. -/
theorem eq_of_index_eq {s t : Nat} (hnode : l.nodeIndex s = l.nodeIndex t)
    (hslot : l.index s = l.index t) : s = t := by
  rw [← Nat.div_add_mod s l.capacity, ← Nat.div_add_mod t l.capacity]
  show l.capacity * l.nodeIndex s + l.index s = l.capacity * l.nodeIndex t + l.index t
  rw [hnode, hslot]

/-- A list keeps its positions when it grows at the end. -/
theorem getElem?_of_isPrefix {xs ys : List PageId} (hpre : xs <+: ys)
    (hid : xs[n]? = some id) : ys[n]? = some id := by
  obtain ⟨hn, rfl⟩ := List.getElem?_eq_some_iff.mp hid
  exact List.prefix_iff_getElem?.mp hpre n hn

/-! ## Pages that hold a history -/

/-- The pages hold what the list needs of a history. Of the pages but the meta page, some are
`held` by the user of the list and some are `loose`: nodes that were used up and have not
entered yet. All others are nodes in use or items in the list. -/
structure Tracks (l : FreeList) (page : PageId → Bytes) (count : Nat) (h : FreeHistory)
    (loose held : List PageId) : Prop where
  two_le_capacity : 2 ≤ l.capacity
  tailSeq_eq : l.tailSeq = h.entered.length
  kept_le : h.kept ≤ l.headSeq
  headSeq_le : l.headSeq ≤ l.watermark
  watermark_le : l.watermark ≤ l.tailSeq
  watermark_lt : l.watermark < h.nodes.length * l.capacity
  tailSeq_le : l.tailSeq ≤ h.nodes.length * l.capacity
  nodes_le : h.nodes.length * l.capacity ≤ l.tailSeq + l.capacity
  headPage_eq : h.nodes[l.nodeIndex l.headSeq]? = some l.headPage
  tailPage_eq : h.nodes.getLast? = some l.tailPage
  slot_eq : ∀ s id node, h.kept ≤ s → h.entered[s]? = some id →
    h.nodes[l.nodeIndex s]? = some node → FreeNode.slot (page node) (l.index s) = id
  link_eq : ∀ k node next, l.nodeIndex h.kept ≤ k → h.nodes[k]? = some node →
    h.nodes[k + 1]? = some next → FreeNode.link (page node) = next
  recycled : ∀ k node, l.nodeIndex h.kept ≤ k → k < l.nodeIndex l.headSeq →
    h.nodes[k]? = some node → node ∈ loose ∨ node ∈ h.entered.drop l.watermark
  count_pos : 0 < count
  partition : (loose ++ held ++ h.nodes.drop (l.nodeIndex l.headSeq) ++
    h.entered.drop l.headSeq).Perm (List.range' 1 (count - 1))

/-- An item is taken from the loose pages or from the held ones. -/
def HandedIn (id : PageId) (loose held loose' held' : List PageId) : Prop :=
  (loose = id :: loose' ∧ held = held') ∨ (loose = loose' ∧ held = id :: held')

namespace HandedIn

variable {loose' held' : List PageId} (hin : HandedIn id loose held loose' held')
include hin

theorem perm : (loose ++ held).Perm (id :: (loose' ++ held')) := by
  rcases hin with ⟨rfl, rfl⟩ | ⟨rfl, rfl⟩
  · exact List.Perm.refl _
  · exact List.perm_middle

theorem mem : id ∈ loose ++ held :=
  hin.perm.mem_iff.mpr List.mem_cons_self

theorem mem_loose {x : PageId} (hx : x ∈ loose) : x = id ∨ x ∈ loose' := by
  rcases hin with ⟨rfl, rfl⟩ | ⟨rfl, rfl⟩
  · exact List.mem_cons.mp hx
  · exact Or.inr hx

theorem mem_held {x : PageId} (hx : x ∈ held) : x = id ∨ x ∈ held' := by
  rcases hin with ⟨rfl, rfl⟩ | ⟨rfl, rfl⟩
  · exact Or.inr hx
  · exact List.mem_cons.mp hx

end HandedIn

namespace Tracks

variable (ht : l.Tracks page count h loose held)
include ht

/-! ## Ownership -/

/-- No page has two places: outside the list, as a node, or as an item. -/
theorem nodup : (loose ++ held ++ h.nodes.drop (l.nodeIndex l.headSeq) ++
    h.entered.drop l.headSeq).Nodup :=
  ht.partition.nodup_iff.mpr List.nodup_range'

/-- A page with an owner exists, and is not the meta page. -/
theorem mem_range (hid : id ∈ loose ++ held ++ h.nodes.drop (l.nodeIndex l.headSeq) ++
    h.entered.drop l.headSeq) : 0 < id ∧ id < count := by
  have hr := ht.partition.mem_iff.mp hid
  have hpos := ht.count_pos
  rw [List.mem_range'_1] at hr
  omega

/-- Pages in use are in the file, and none is the meta page. -/
theorem held_range (hid : id ∈ held) : 0 < id ∧ id < count :=
  ht.mem_range (by simp [hid])

/-- Nodes are pages of the file, and none is the meta page. -/
theorem node_range (hid : id ∈ h.nodes.drop (l.nodeIndex l.headSeq)) : 0 < id ∧ id < count :=
  ht.mem_range (by simp [hid])

theorem item_range (hid : id ∈ h.entered.drop l.headSeq) : 0 < id ∧ id < count :=
  ht.mem_range (by simp [hid])

theorem notMem_held_of_node (hid : id ∈ h.nodes.drop (l.nodeIndex l.headSeq)) : id ∉ held := by
  have hnd := ht.nodup
  simp only [List.nodup_append, List.mem_append] at hnd
  intro hheld
  exact hnd.1.2.2 id (Or.inr hheld) id hid rfl

theorem notMem_held_of_item (hid : id ∈ h.entered.drop l.headSeq) : id ∉ held := by
  have hnd := ht.nodup
  simp only [List.nodup_append, List.mem_append] at hnd
  intro hheld
  exact hnd.2.2 id (Or.inl (Or.inr hheld)) id hid rfl

theorem notMem_held_of_loose (hid : id ∈ loose) : id ∉ held := by
  have hnd := ht.nodup
  simp only [List.nodup_append, List.mem_append] at hnd
  intro hheld
  exact hnd.1.1.2.2 id hid id hheld rfl

theorem nodup_held : held.Nodup := by
  have hnd := ht.nodup
  simp only [List.nodup_append] at hnd
  exact hnd.1.1.2.1

theorem notMem_item_of_node (hid : id ∈ h.nodes.drop (l.nodeIndex l.headSeq)) :
    id ∉ h.entered.drop l.headSeq := by
  have hnd := ht.nodup
  simp only [List.nodup_append, List.mem_append] at hnd
  intro hitem
  exact hnd.2.2 id (Or.inr hid) id hitem rfl

theorem notMem_loose_of_node (hid : id ∈ h.nodes.drop (l.nodeIndex l.headSeq)) :
    id ∉ loose := by
  have hnd := ht.nodup
  simp only [List.nodup_append, List.mem_append] at hnd
  intro hloose
  exact hnd.1.2.2 id (Or.inl hloose) id hid rfl

theorem nodup_nodes : (h.nodes.drop (l.nodeIndex l.headSeq)).Nodup := by
  have hnd := ht.nodup
  simp only [List.nodup_append] at hnd
  exact hnd.1.2.1

/-! ## Nodes that are still needed -/

/-- The head lies in one of the nodes. -/
theorem nodeIndex_headSeq_lt : l.nodeIndex l.headSeq < h.nodes.length :=
  (List.getElem?_eq_some_iff.mp ht.headPage_eq).1

/-- The tail is the last node of all. -/
theorem tailPage_getElem : h.nodes[h.nodes.length - 1]? = some l.tailPage := by
  rw [← List.getLast?_eq_getElem?]
  exact ht.tailPage_eq

/-- The head is one of the nodes that are left. -/
theorem headPage_mem : l.headPage ∈ h.nodes.drop (l.nodeIndex l.headSeq) := by
  rw [List.mem_iff_getElem?]
  exact ⟨0, by rw [List.getElem?_drop, Nat.add_zero, ht.headPage_eq]⟩

theorem tailPage_mem : l.tailPage ∈ h.nodes.drop (l.nodeIndex l.headSeq) := by
  have hlt := ht.nodeIndex_headSeq_lt
  rw [List.mem_iff_getElem?]
  refine ⟨h.nodes.length - 1 - l.nodeIndex l.headSeq, ?_⟩
  rw [List.getElem?_drop, Nat.add_sub_cancel' (by omega), ht.tailPage_getElem]

/-- A file with a list has more pages than the meta page. -/
theorem one_lt_count : 1 < count := by
  have hhead := ht.node_range ht.headPage_mem
  exact Nat.lt_of_le_of_lt hhead.1 hhead.2

/-- A node that is still needed is in use, waits to enter, or has entered above the watermark. -/
theorem node_cases (hk : l.nodeIndex h.kept ≤ k) (hn : h.nodes[k]? = some id) :
    id ∈ h.nodes.drop (l.nodeIndex l.headSeq) ∨ id ∈ loose ∨ id ∈ h.entered.drop l.watermark := by
  by_cases hlive : l.nodeIndex l.headSeq ≤ k
  · left
    rw [List.mem_iff_getElem?]
    exact ⟨k - l.nodeIndex l.headSeq, by rw [List.getElem?_drop, Nat.add_sub_cancel' hlive, hn]⟩
  · right
    exact ht.recycled k id hk (by omega) hn

/-- What lies above the watermark has not left. -/
theorem mem_drop_headSeq (hid : id ∈ h.entered.drop l.watermark) :
    id ∈ h.entered.drop l.headSeq :=
  (List.drop_sublist_drop_left h.entered ht.headSeq_le).subset hid

/-- The nodes that are still needed are pages of the file. -/
theorem node_needed_range (hk : l.nodeIndex h.kept ≤ k) (hn : h.nodes[k]? = some id) :
    0 < id ∧ id < count := by
  rcases ht.node_cases hk hn with hlive | hloose | hitem
  · exact ht.node_range hlive
  · exact ht.mem_range (by simp [hloose])
  · exact ht.item_range (ht.mem_drop_headSeq hitem)

/-- No node that is still needed is held by the user of the list. -/
theorem notMem_held_of_needed (hk : l.nodeIndex h.kept ≤ k) (hn : h.nodes[k]? = some id) :
    id ∉ held := by
  rcases ht.node_cases hk hn with hlive | hloose | hitem
  · exact ht.notMem_held_of_node hlive
  · exact ht.notMem_held_of_loose hloose
  · exact ht.notMem_held_of_item (ht.mem_drop_headSeq hitem)

/-- The tail node is none of the nodes before it that are still needed. -/
theorem ne_tailPage (hk : l.nodeIndex h.kept ≤ k) (hn : h.nodes[k]? = some id)
    (hlast : k + 1 < h.nodes.length) : id ≠ l.tailPage := by
  intro heq
  rcases ht.node_cases hk hn with hlive | hloose | hitem
  · by_cases hle : l.nodeIndex l.headSeq ≤ k
    · have hlen : (h.nodes.drop (l.nodeIndex l.headSeq)).length =
          h.nodes.length - l.nodeIndex l.headSeq := List.length_drop
      have hget : (h.nodes.drop (l.nodeIndex l.headSeq))[k - l.nodeIndex l.headSeq]? =
          (h.nodes.drop (l.nodeIndex l.headSeq))[h.nodes.length - 1 - l.nodeIndex l.headSeq]? := by
        rw [List.getElem?_drop, List.getElem?_drop, Nat.add_sub_cancel' hle,
          Nat.add_sub_cancel' (by omega), hn, ht.tailPage_getElem, heq]
      exact List.nodup_iff_getElem?_ne_getElem?.mp ht.nodup_nodes _ _ (by omega) (by omega) hget
    · rcases ht.recycled k id hk (by omega) hn with hloose | hitem
      · exact ht.notMem_loose_of_node hlive hloose
      · exact ht.notMem_item_of_node hlive (ht.mem_drop_headSeq hitem)
  · exact ht.notMem_loose_of_node ht.tailPage_mem (heq ▸ hloose)
  · exact ht.notMem_item_of_node ht.tailPage_mem (heq ▸ ht.mem_drop_headSeq hitem)

/-! ## An item leaves -/

/-- Below the watermark there is an item to take. -/
theorem entered_headSeq (hlt : l.headSeq < l.watermark) :
    ∃ id, h.entered[l.headSeq]? = some id ∧
      h.entered.drop l.headSeq = id :: h.entered.drop (l.headSeq + 1) := by
  have hwm := ht.watermark_le
  have htl := ht.tailSeq_eq
  have hlen : l.headSeq < h.entered.length := by omega
  exact ⟨h.entered[l.headSeq], List.getElem?_eq_getElem hlen, List.drop_eq_getElem_cons hlen⟩

/-- The oldest item leaves, and its node still holds others. -/
theorem pop (hlt : l.headSeq < l.watermark) (hid : h.entered[l.headSeq]? = some id)
    (hindex : l.index (l.headSeq + 1) ≠ 0) :
    Tracks { l with headSeq := l.headSeq + 1 } page count h loose (id :: held) := by
  have hnode := nodeIndex_succ_of_ne hindex
  obtain ⟨id', hid', hdrop⟩ := ht.entered_headSeq hlt
  obtain rfl : id' = id := Option.some.inj (hid'.symm.trans hid)
  have hkept := ht.kept_le
  refine { ht with
    kept_le := by show _ ≤ l.headSeq + 1; omega
    headSeq_le := hlt
    headPage_eq := by show h.nodes[l.nodeIndex (l.headSeq + 1)]? = _; rw [hnode, ht.headPage_eq]
    recycled := fun k node hk hk' => ht.recycled k node hk (hnode ▸ hk')
    partition := ?_ }
  have hp := ht.partition
  show (_ ++ _ ++ h.nodes.drop (l.nodeIndex (l.headSeq + 1)) ++
    h.entered.drop (l.headSeq + 1)).Perm _
  rw [hdrop] at hp
  rw [hnode]
  refine List.Perm.trans ?_ hp
  rw [List.perm_iff_count]
  intro a
  simp only [List.count_append, List.count_cons]
  omega

/-- The oldest item leaves, and its node has no other. The next node becomes the head. -/
theorem pop_last (hlt : l.headSeq < l.watermark) (hid : h.entered[l.headSeq]? = some id)
    (hindex : l.index (l.headSeq + 1) = 0) :
    Tracks { l with headSeq := l.headSeq + 1, headPage := FreeNode.link (page l.headPage) }
      page count h (l.headPage :: loose) (id :: held) := by
  have hnode := nodeIndex_succ_of_eq hindex
  obtain ⟨id', hid', hdrop⟩ := ht.entered_headSeq hlt
  obtain rfl : id' = id := Option.some.inj (hid'.symm.trans hid)
  have hkept := ht.kept_le
  have hcap := ht.two_le_capacity
  -- the watermark lies in a node, so the used-up node has a successor
  have hsucc : l.nodeIndex (l.headSeq + 1) < h.nodes.length := by
    have hwm := ht.watermark_lt
    rw [nodeIndex_lt_iff hcap]
    omega
  have hnext := List.getElem?_eq_getElem hsucc
  have hlink : FreeNode.link (page l.headPage) = h.nodes[l.nodeIndex (l.headSeq + 1)] := by
    apply ht.link_eq _ _ _ (nodeIndex_mono hkept) ht.headPage_eq
    rw [← hnode, hnext]
  refine { ht with
    kept_le := by show _ ≤ l.headSeq + 1; omega
    headSeq_le := hlt
    headPage_eq := by
      show h.nodes[l.nodeIndex (l.headSeq + 1)]? = some (FreeNode.link (page l.headPage))
      rw [hlink, hnext]
    recycled := ?_
    partition := ?_ }
  · -- the used-up node is loose; those before it are where they were
    intro k node hk hk' hn
    have hk'' : k < l.nodeIndex l.headSeq + 1 := hnode ▸ hk'
    rcases Nat.lt_or_eq_of_le (Nat.lt_succ_iff.mp hk'') with hlt' | rfl
    · rcases ht.recycled k node hk hlt' hn with hloose | hitem
      · exact Or.inl (List.mem_cons_of_mem _ hloose)
      · exact Or.inr hitem
    · left
      have heq : l.headPage = node := Option.some.inj (ht.headPage_eq.symm.trans hn)
      rw [heq]
      exact List.mem_cons_self
  · have hp := ht.partition
    have hhead : h.nodes.drop (l.nodeIndex l.headSeq) =
        l.headPage :: h.nodes.drop (l.nodeIndex l.headSeq + 1) := by
      have hlt' := ht.nodeIndex_headSeq_lt
      have hget := ht.headPage_eq
      rw [List.getElem?_eq_getElem hlt'] at hget
      rw [List.drop_eq_getElem_cons hlt', Option.some.inj hget]
    show (_ ++ _ ++ h.nodes.drop (l.nodeIndex (l.headSeq + 1)) ++
      h.entered.drop (l.headSeq + 1)).Perm _
    rw [hdrop, hhead] at hp
    rw [hnode]
    refine List.Perm.trans ?_ hp
    rw [List.perm_iff_count]
    intro a
    simp only [List.count_append, List.count_cons]
    omega

/-! ## An item enters -/

/-- The last node is that of the next new item. -/
theorem nodeIndex_tailSeq (hroom : l.tailSeq < h.nodes.length * l.capacity) :
    l.nodeIndex l.tailSeq + 1 = h.nodes.length := by
  have hcap := ht.two_le_capacity
  have hnodes := ht.nodes_le
  have hlt := (nodeIndex_lt_iff hcap).mpr hroom
  have hge : ¬ l.nodeIndex l.tailSeq < h.nodes.length - 1 := by
    rw [nodeIndex_lt_iff hcap]
    have hmul : (h.nodes.length - 1) * l.capacity + l.capacity = h.nodes.length * l.capacity := by
      rw [← Nat.succ_mul, Nat.succ_eq_add_one, Nat.sub_add_cancel (by omega)]
    omega
  omega

/-- Where the item after the next one would start a node, the next one fills the last node. -/
theorem full_of_index_eq_zero (hroom : l.tailSeq < h.nodes.length * l.capacity)
    (hindex : l.index (l.tailSeq + 1) = 0) :
    l.tailSeq + 1 = h.nodes.length * l.capacity := by
  have hcap := ht.two_le_capacity
  have hnodes := ht.nodes_le
  obtain ⟨k, hk⟩ := Nat.dvd_of_mod_eq_zero hindex
  rw [hk, Nat.mul_comm]
  congr 1
  have hle : k * l.capacity ≤ h.nodes.length * l.capacity := by
    rw [Nat.mul_comm k, ← hk]
    exact hroom
  have hge : h.nodes.length * l.capacity < (k + 1) * l.capacity := by
    rw [Nat.succ_mul, Nat.mul_comm k, ← hk]
    omega
  have hle' := Nat.le_of_mul_le_mul_right hle (by omega)
  have hge' := Nat.lt_of_mul_lt_mul_right hge
  omega

/-- Filling the next slot of the tail node changes no other slot. -/
theorem slot_put (hroom : l.tailSeq < h.nodes.length * l.capacity)
    (hsize : ∀ i < count, FreeNode.capacity (page i).length = l.capacity) {x node : PageId}
    (hs : h.kept ≤ s) (hx : h.entered[s]? = some x)
    (hn : h.nodes[l.nodeIndex s]? = some node) :
    FreeNode.slot (Function.update page l.tailPage
      (FreeNode.setSlot (l.index l.tailSeq) id (page l.tailPage)) node) (l.index s) = x := by
  have hold := ht.slot_eq s x node hs hx hn
  by_cases htp : node = l.tailPage
  · subst htp
    have hlast := ht.nodeIndex_tailSeq hroom
    have htl := ht.tailSeq_eq
    have hslen := (List.getElem?_eq_some_iff.mp hx).1
    have hsame : l.nodeIndex s = l.nodeIndex l.tailSeq := by
      by_contra hne
      have hnlen : l.nodeIndex s < h.nodes.length := (List.getElem?_eq_some_iff.mp hn).1
      exact ht.ne_tailPage (nodeIndex_mono hs) hn (by omega) rfl
    rw [Function.update_self, FreeNode.slot_setSlot_of_ne _ _, hold]
    · intro hidx
      have := eq_of_index_eq hsame hidx.symm
      omega
    · rw [hsize _ (ht.node_range ht.tailPage_mem).2]
      exact index_lt ht.two_le_capacity
  · rw [Function.update_of_ne htp, hold]

/-- Filling a slot of the tail node changes no link. -/
theorem link_put (hsize : ∀ i < count, FreeNode.capacity (page i).length = l.capacity)
    {node next : PageId} (hk : l.nodeIndex h.kept ≤ k) (hn : h.nodes[k]? = some node)
    (hnext : h.nodes[k + 1]? = some next) :
    FreeNode.link (Function.update page l.tailPage
      (FreeNode.setSlot (l.index l.tailSeq) id (page l.tailPage)) node) = next := by
  have hold := ht.link_eq k node next hk hn hnext
  have hcap := ht.two_le_capacity
  by_cases htp : node = l.tailPage
  · subst htp
    rw [Function.update_self, FreeNode.link_setSlot (j := 0) _, hold]
    rw [hsize _ (ht.node_range ht.tailPage_mem).2]
    omega
  · rw [Function.update_of_ne htp, hold]

/-- The item that is handed in gets the next slot of the tail node. -/
theorem put {loose' held' : List PageId} (hroom : l.tailSeq < h.nodes.length * l.capacity)
    (hsize : ∀ i < count, FreeNode.capacity (page i).length = l.capacity)
    (hcount : count < 2 ^ 64) (hin : HandedIn id loose held loose' held') :
    Tracks { l with tailSeq := l.tailSeq + 1 }
      (Function.update page l.tailPage
        (FreeNode.setSlot (l.index l.tailSeq) id (page l.tailPage)))
      count { h with entered := h.entered ++ [id] } loose' held' := by
  have htl := ht.tailSeq_eq
  have hhead := ht.headSeq_le
  have hmark := ht.watermark_le
  have hkept := ht.kept_le
  have hnodes := ht.nodes_le
  have hmem := List.mem_append_left (h.entered.drop l.headSeq)
    (List.mem_append_left (h.nodes.drop (l.nodeIndex l.headSeq)) hin.mem)
  have hid : id < 2 ^ 64 := Nat.lt_trans (ht.mem_range hmem).2 hcount
  refine { ht with
    tailSeq_eq := by show l.tailSeq + 1 = _; rw [List.length_append, List.length_singleton, htl]
    watermark_le := by show l.watermark ≤ l.tailSeq + 1; omega
    tailSeq_le := hroom
    nodes_le := by
      show h.nodes.length * l.capacity ≤ l.tailSeq + 1 + l.capacity
      omega
    slot_eq := ?_
    link_eq := fun _ _ _ hk hn hnext => ht.link_put hsize hk hn hnext
    recycled := ?_
    partition := ?_ }
  · intro s x node hs hx hn
    have hslen : s < h.entered.length + 1 := by
      simpa using (List.getElem?_eq_some_iff.mp hx).1
    rcases Nat.lt_or_eq_of_le (Nat.lt_succ_iff.mp hslen) with hlt | rfl
    · rw [List.getElem?_append_left hlt] at hx
      exact ht.slot_put hroom hsize hs hx hn
    · -- the new item is in the last node
      rw [List.getElem?_concat_length] at hx
      obtain rfl : id = x := Option.some.inj hx
      have hlast := ht.nodeIndex_tailSeq hroom
      have hn' : h.nodes[l.nodeIndex h.entered.length]? = some node := hn
      rw [← htl, show l.nodeIndex l.tailSeq = h.nodes.length - 1 by omega,
        ht.tailPage_getElem] at hn'
      obtain rfl : l.tailPage = node := Option.some.inj hn'
      show FreeNode.slot (Function.update page _ _ l.tailPage) (l.index h.entered.length) = id
      rw [Function.update_self, ← htl, FreeNode.slot_setSlot hid]
  · -- a loose node that enters does so above the watermark
    intro k node hk hk' hn
    show node ∈ loose' ∨ node ∈ (h.entered ++ [id]).drop l.watermark
    rw [List.drop_append_of_le_length (by omega)]
    rcases ht.recycled k node hk hk' hn with hl | hitem
    · rcases hin.mem_loose hl with rfl | hl'
      · exact Or.inr (List.mem_append_right _ List.mem_cons_self)
      · exact Or.inl hl'
    · exact Or.inr (List.mem_append_left _ hitem)
  · have hp := ht.partition
    show (_ ++ _ ++ h.nodes.drop (l.nodeIndex l.headSeq) ++
      (h.entered ++ [id]).drop l.headSeq).Perm _
    rw [List.drop_append_of_le_length (by omega)]
    have hperm := hin.perm
    refine List.Perm.trans ?_ hp
    rw [List.perm_iff_count] at hperm ⊢
    intro a
    have ha := hperm a
    simp only [List.count_append, List.count_cons, List.count_nil] at ha ⊢
    omega

/-! ## The list grows -/

/-- Linking a page that was held behind the last node changes no slot of an item. -/
theorem slot_attach (hfull : l.tailSeq = h.nodes.length * l.capacity)
    (hsize : ∀ i < count, FreeNode.capacity (page i).length = l.capacity) (hheld : next ∈ held)
    {x node : PageId} (hs : h.kept ≤ s) (hx : h.entered[s]? = some x)
    (hn : (h.nodes ++ [next])[l.nodeIndex s]? = some node) :
    FreeNode.slot (Function.update
      (Function.update page l.tailPage (FreeNode.setLink next (page l.tailPage)))
      next (FreeNode.setLink PageId.null (page next)) node) (l.index s) = x := by
  have hcap := ht.two_le_capacity
  -- every item is in an old node, of which at most the link has changed
  have hslen : s < h.nodes.length * l.capacity := by
    rw [← hfull, ht.tailSeq_eq]
    exact (List.getElem?_eq_some_iff.mp hx).1
  rw [List.getElem?_append_left ((nodeIndex_lt_iff hcap).mpr hslen)] at hn
  have hold := ht.slot_eq s x node hs hx hn
  have hnode : node ≠ next := by
    intro heq
    exact ht.notMem_held_of_needed (nodeIndex_mono hs) hn (heq ▸ hheld)
  rw [Function.update_of_ne hnode]
  by_cases htp : node = l.tailPage
  · subst htp
    rw [Function.update_self, FreeNode.slot_setLink, hold]
    rw [hsize _ (ht.node_range ht.tailPage_mem).2]
    exact index_lt hcap
  · rw [Function.update_of_ne htp]
    exact hold

/-- Linking a page that was held behind the last node adds this link, and changes no other. -/
theorem link_attach (hcount : count < 2 ^ 64) (hheld : next ∈ held) {node succ : PageId}
    (hk : l.nodeIndex h.kept ≤ k) (hn : (h.nodes ++ [next])[k]? = some node)
    (hsucc : (h.nodes ++ [next])[k + 1]? = some succ) :
    FreeNode.link (Function.update
      (Function.update page l.tailPage (FreeNode.setLink next (page l.tailPage)))
      next (FreeNode.setLink PageId.null (page next)) node) = succ := by
  have hklen : k + 1 < h.nodes.length + 1 := by
    simpa using (List.getElem?_eq_some_iff.mp hsucc).1
  rw [List.getElem?_append_left (by omega)] at hn
  have hnode : node ≠ next := by
    intro heq
    exact ht.notMem_held_of_needed hk hn (heq ▸ hheld)
  rw [Function.update_of_ne hnode]
  rcases Nat.lt_or_eq_of_le (Nat.lt_succ_iff.mp hklen) with hlt | heq
  · rw [List.getElem?_append_left hlt] at hsucc
    rw [Function.update_of_ne (ht.ne_tailPage hk hn hlt)]
    exact ht.link_eq k node succ hk hn hsucc
  · -- the new link is that of the old tail node
    rw [heq, List.getElem?_concat_length] at hsucc
    obtain rfl : next = succ := Option.some.inj hsucc
    have hlast : h.nodes[h.nodes.length - 1]? = some node := by
      rw [← hn, ← heq]
      rfl
    obtain rfl : l.tailPage = node := Option.some.inj (ht.tailPage_getElem.symm.trans hlast)
    rw [Function.update_self, FreeNode.link_setLink (Nat.lt_trans (ht.held_range hheld).2 hcount)]

/-- A full list gets one of the held pages as its new last node. -/
theorem attach {held' : List PageId} (hfull : l.tailSeq = h.nodes.length * l.capacity)
    (hsize : ∀ i < count, FreeNode.capacity (page i).length = l.capacity)
    (hcount : count < 2 ^ 64) (hperm : held.Perm (next :: held')) :
    Tracks { l with tailPage := next }
      (Function.update
        (Function.update page l.tailPage (FreeNode.setLink next (page l.tailPage)))
        next (FreeNode.setLink PageId.null (page next)))
      count { h with nodes := h.nodes ++ [next] } loose held' := by
  have hcap := ht.two_le_capacity
  have hlen := ht.nodeIndex_headSeq_lt
  have hmul : (h.nodes ++ [next]).length * l.capacity =
      h.nodes.length * l.capacity + l.capacity := by
    rw [List.length_append, List.length_singleton, Nat.succ_mul]
  have hheld : next ∈ held := hperm.mem_iff.mpr List.mem_cons_self
  refine { ht with
    watermark_lt := ?_
    tailSeq_le := ?_
    nodes_le := ?_
    headPage_eq := ?_
    tailPage_eq := List.getLast?_concat
    slot_eq := fun _ _ _ hs hx hn => ht.slot_attach hfull hsize hheld hs hx hn
    link_eq := fun _ _ _ hk hn hsucc => ht.link_attach hcount hheld hk hn hsucc
    recycled := ?_
    partition := ?_ }
  · have hwm := ht.watermark_lt
    show l.watermark < (h.nodes ++ [next]).length * l.capacity
    omega
  · show l.tailSeq ≤ (h.nodes ++ [next]).length * l.capacity
    omega
  · show (h.nodes ++ [next]).length * l.capacity ≤ l.tailSeq + l.capacity
    omega
  · show (h.nodes ++ [next])[l.nodeIndex l.headSeq]? = some l.headPage
    rw [List.getElem?_append_left hlen, ht.headPage_eq]
  · intro k node hk hk' hn
    have hk'' : k < h.nodes.length := Nat.lt_trans hk' hlen
    rw [List.getElem?_append_left hk''] at hn
    exact ht.recycled k node hk hk' hn
  · have hp := ht.partition
    show (_ ++ _ ++ (h.nodes ++ [next]).drop (l.nodeIndex l.headSeq) ++ _).Perm _
    rw [List.drop_append_of_le_length (by omega)]
    refine List.Perm.trans ?_ hp
    rw [List.perm_iff_count] at hperm ⊢
    intro a
    have ha := hperm a
    simp only [List.count_append, List.count_cons, List.count_nil] at ha ⊢
    omega

/-- A new page is held by the user of the list. -/
theorem grow {bytes : Bytes} :
    l.Tracks (Function.update page count bytes) (count + 1) h loose (count :: held) := by
  have hpos := ht.count_pos
  have hsame : ∀ k node, l.nodeIndex h.kept ≤ k → h.nodes[k]? = some node →
      Function.update page count bytes node = page node := by
    intro k node hk hn
    apply Function.update_of_ne
    have := ht.node_needed_range hk hn
    exact Nat.ne_of_lt this.2
  refine { ht with
    slot_eq := ?_
    link_eq := ?_
    count_pos := Nat.succ_pos count
    partition := ?_ }
  · intro s id node hs hid hn
    rw [hsame _ node (nodeIndex_mono hs) hn]
    exact ht.slot_eq s id node hs hid hn
  · intro k node next hk hn hnext
    rw [hsame k node hk hn]
    exact ht.link_eq k node next hk hn hnext
  · -- the new page is the last one of the range
    have hrange : List.range' 1 (count + 1 - 1) = List.range' 1 (count - 1) ++ [count] := by
      have hsum : List.range' 1 (count - 1 + 1) = _ := List.range'_1_concat
      rwa [show count - 1 + 1 = count + 1 - 1 by omega, show 1 + (count - 1) = count by omega]
        at hsum
    have hp := ht.partition
    rw [List.perm_iff_count] at hp ⊢
    intro a
    have ha := hp a
    rw [hrange]
    simp only [List.count_append, List.count_cons, List.count_nil] at ha ⊢
    omega

/-! ## The same list on other pages -/

/-- The order of the held pages does not matter. -/
theorem of_perm {held' : List PageId} (hperm : held.Perm held') :
    l.Tracks page count h loose held' := by
  refine { ht with partition := ?_ }
  have hp := ht.partition
  rw [List.perm_iff_count] at hp hperm ⊢
  intro a
  have ha := hp a
  have hb := hperm a
  simp only [List.count_append] at ha ⊢
  omega

/-- The list does not depend on the meta page, nor on the held pages. -/
theorem of_pages {page' : PageId → Bytes}
    (hpage : ∀ id : Nat, 0 < id → id < count → id ∉ held → page' id = page id) :
    l.Tracks page' count h loose held := by
  have hsame : ∀ k node, l.nodeIndex h.kept ≤ k → h.nodes[k]? = some node →
      page' node = page node := by
    intro k node hk hn
    have hrange := ht.node_needed_range hk hn
    exact hpage node hrange.1 hrange.2 (ht.notMem_held_of_needed hk hn)
  refine { ht with slot_eq := ?_, link_eq := ?_ }
  · intro s id node hs hid hn
    rw [hsame _ node (nodeIndex_mono hs) hn]
    exact ht.slot_eq s id node hs hid hn
  · intro k node next hk hn hnext
    rw [hsame k node hk hn]
    exact ht.link_eq k node next hk hn hnext

/-- A list that grew keeps all slots and links that the list had before. Where each page is a
byte-wise mixture of its contents before and after, the list before is still there. -/
theorem of_mixed {l' : FreeList} {page' mixed : PageId → Bytes} {count' : Nat} {g : FreeHistory}
    {loose' held' : List PageId} (ht' : l'.Tracks page' count' g loose' held')
    (hcap : l'.capacity = l.capacity) (hentered : h.entered <+: g.entered)
    (hnodes : h.nodes <+: g.nodes) (hkept : g.kept = h.kept)
    (hlen : ∀ id : Nat, id < count → (page id).length = (page' id).length)
    (hmixed : ∀ id i : Nat, 0 < id → id < count →
      (mixed id)[i]? = (page id)[i]? ∨ (mixed id)[i]? = (page' id)[i]?) :
    l.Tracks mixed count h loose held := by
  have hindex : ∀ s, l'.nodeIndex s = l.nodeIndex s := by
    intro s
    rw [nodeIndex, hcap, nodeIndex]
  -- both lists read the same word, so a mixture of its bytes is this word
  refine { ht with slot_eq := ?_, link_eq := ?_ }
  · intro s id node hs hid hn
    have hrange := ht.node_needed_range (nodeIndex_mono hs) hn
    have hold := ht.slot_eq s id node hs hid hn
    have hnew : FreeNode.slot (page' node) (l.index s) = id := by
      have hnew' := ht'.slot_eq s id node (hkept ▸ hs) (getElem?_of_isPrefix hentered hid)
        (by rw [hindex]; exact getElem?_of_isPrefix hnodes hn)
      rwa [index, hcap] at hnew'
    rw [FreeNode.slot_of_mixed (hlen node hrange.2) (hmixed node · hrange.1 hrange.2)
      (hold.trans hnew.symm), hold]
  · intro k node next hk hn hnext
    have hrange := ht.node_needed_range hk hn
    have hold := ht.link_eq k node next hk hn hnext
    have hnew : FreeNode.link (page' node) = next :=
      ht'.link_eq k node next (by rw [hindex, hkept]; exact hk)
        (getElem?_of_isPrefix hnodes hn) (getElem?_of_isPrefix hnodes hnext)
    rw [FreeNode.link_of_mixed (hlen node hrange.2) (hmixed node · hrange.1 hrange.2)
      (hold.trans hnew.symm), hold]

end Tracks

/-! ## Where a history starts, and where its past is forgotten -/

/-- A list on one node has an empty history, and all other pages are held. -/
theorem Tracks.new {size node : Nat} (hcap : 2 ≤ FreeNode.capacity size) (hpos : 0 < node)
    (hlt : node < count) :
    (FreeList.new node size).Tracks page count ⟨[], [node], 0⟩ []
      ((List.range' 1 (count - 1)).erase node) where
  two_le_capacity := hcap
  tailSeq_eq := rfl
  kept_le := Nat.le_refl 0
  headSeq_le := Nat.le_refl 0
  watermark_le := Nat.le_refl 0
  watermark_lt := by
    show 0 < 1 * FreeNode.capacity size
    omega
  tailSeq_le := Nat.zero_le _
  nodes_le := by
    show 1 * FreeNode.capacity size ≤ 0 + FreeNode.capacity size
    omega
  headPage_eq := by
    rw [nodeIndex, show (FreeList.new node size).headSeq = 0 from rfl, Nat.zero_div]
    rfl
  tailPage_eq := rfl
  slot_eq := by
    intro s id other hs hid
    cases hid
  link_eq := by
    intro k other next hk hother hnext
    cases hnext
  recycled := by
    intro k other hk hk'
    rw [nodeIndex, show (FreeList.new node size).headSeq = 0 from rfl, Nat.zero_div] at hk'
    exact absurd hk' (Nat.not_lt_zero k)
  count_pos := Nat.lt_of_le_of_lt (Nat.zero_le node) hlt
  partition := by
    rw [nodeIndex, show (FreeList.new node size).headSeq = 0 from rfl, Nat.zero_div,
      List.drop_zero, List.drop_zero, List.nil_append, List.append_nil]
    apply List.Perm.trans List.perm_append_comm
    apply (List.perm_cons_erase _).symm
    rw [List.mem_range'_1]
    omega

/-- All items may leave. What left before is not needed any more. -/
theorem Tracks.raise (ht : l.Tracks page count h [] held)
    (hroom : l.tailSeq < h.nodes.length * l.capacity) :
    l.raiseWatermark.Tracks page count { h with kept := l.headSeq } [] held := by
  have hhead := ht.headSeq_le
  have hmark := ht.watermark_le
  refine { ht with
    kept_le := Nat.le_refl _
    headSeq_le := by show l.headSeq ≤ l.tailSeq; omega
    watermark_le := Nat.le_refl _
    watermark_lt := hroom
    slot_eq := ?_
    link_eq := ?_
    recycled := ?_ }
  · intro s id node hs
    exact ht.slot_eq s id node (Nat.le_trans ht.kept_le hs)
  · intro k node next hk
    exact ht.link_eq k node next (Nat.le_trans (nodeIndex_mono ht.kept_le) hk)
  · intro k node hk hk'
    exact absurd hk' (Nat.not_lt.mpr hk)

end FreeList

end PagedTables
