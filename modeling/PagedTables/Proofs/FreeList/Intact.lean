/-
# Lists without a known past

A list that is read from a file has a past that nobody knows. If its nodes and items are what
they should be, any past will do: the list works as if it had one.

* `FreeList.Intact` : links lead from the head to the tail, and no page is used twice;
* `FreeList.Intact.tracks` : an intact list has a history.
-/
import PagedTables.Proofs.FreeList.Queue

namespace PagedTables

namespace FreeList

variable {l : FreeList} {page : PageId → Bytes} {count : Nat} {held : List PageId}

/-- The pages in use by a list, apart from those that are held. -/
def used (l : FreeList) (page : PageId → Bytes) (held : List PageId) : List PageId :=
  held ++ l.nodes page ++ l.items page

/-- Following the links leads from the head node to the tail node. No page is used twice, and
every page that is used is there and is not the meta page. -/
structure Intact (l : FreeList) (page : PageId → Bytes) (count : Nat) (held : List PageId) :
    Prop where
  nodes_getLast? : (l.nodes page).getLast? = some l.tailPage
  used_nodup : (l.used page held).Nodup
  used_range : ∀ id ∈ l.used page held, 0 < id ∧ id < count

instance (l : FreeList) (page : PageId → Bytes) (count : Nat) (held : List PageId) :
    Decidable (l.Intact page count held) :=
  decidable_of_iff ((l.nodes page).getLast? = some l.tailPage ∧ (l.used page held).Nodup ∧
      ∀ id ∈ l.used page held, 0 < id ∧ id < count)
    ⟨fun h => ⟨h.1, h.2.1, h.2.2⟩, fun h => ⟨h.nodes_getLast?, h.used_nodup, h.used_range⟩⟩

/-- The pages that are not used. -/
def spare (l : FreeList) (page : PageId → Bytes) (count : Nat) (held : List PageId) :
    List PageId :=
  (List.range' 1 (count - 1)).filter fun id => decide (id ∉ l.used page held)

/-- A history with nodes and items of a list at its end; what was before is made up. -/
def pretended (l : FreeList) (page : PageId → Bytes) : FreeHistory where
  entered := List.replicate l.headSeq PageId.null ++ l.items page
  nodes := List.replicate (l.nodeIndex l.headSeq) PageId.null ++ l.nodes page
  kept := l.headSeq

/-- Used and spare pages are all pages but the meta page. -/
theorem Intact.perm (hi : l.Intact page count held) :
    (held ++ l.spare page count held ++ l.nodes page ++ l.items page).Perm
      (List.range' 1 (count - 1)) := by
  have hsplit := List.filter_append_perm (fun id => decide (id ∈ l.used page held))
    (List.range' 1 (count - 1))
  have hused : ((List.range' 1 (count - 1)).filter fun id => decide (id ∈ l.used page held)).Perm
      (l.used page held) := by
    have hrange : (List.range' 1 (count - 1)).Nodup := List.nodup_range'
    rw [List.perm_ext_iff_of_nodup (hrange.filter _) hi.used_nodup]
    intro id
    rw [List.mem_filter, List.mem_range'_1, decide_eq_true_iff]
    refine ⟨fun h => h.2, fun h => ⟨?_, h⟩⟩
    have hr : (0 : Nat) < id ∧ id < count := hi.used_range id h
    show (1 : Nat) ≤ id ∧ id < 1 + (count - 1)
    omega
  have hspare : ((List.range' 1 (count - 1)).filter fun id =>
      !decide (id ∈ l.used page held)) = l.spare page count held := by
    rw [spare]
    congr 1
    funext id
    rw [decide_not]
  rw [hspare] at hsplit
  refine List.Perm.trans ?_ ((hused.symm.append_right _).trans hsplit)
  rw [List.perm_iff_count]
  intro a
  simp only [used, List.count_append]
  omega

section Pretended

variable {s k : Nat} {id : PageId}

/-- The items that the list claims to have are those in its slots. -/
theorem pretended_item (hseq : l.headSeq ≤ s) (hid : (l.pretended page).entered[s]? = some id) :
    l.itemAt page s = id := by
  rw [pretended, List.getElem?_append_right (by rwa [List.length_replicate]),
    List.length_replicate, items, List.getElem?_map, Option.map_eq_some_iff] at hid
  obtain ⟨i, hi, rfl⟩ := hid
  obtain ⟨hlt, rfl⟩ := List.getElem?_eq_some_iff.mp hi
  rw [List.getElem_range', Nat.one_mul, Nat.add_sub_cancel' hseq]

/-- The nodes that the list claims to have are those that its links lead to. -/
theorem pretended_node (hk : l.nodeIndex l.headSeq ≤ k)
    (hid : (l.pretended page).nodes[k]? = some id) :
    l.nodeAt page (k - l.nodeIndex l.headSeq) = id := by
  rw [pretended, List.getElem?_append_right (by rwa [List.length_replicate]),
    List.length_replicate, nodes, List.getElem?_map, Option.map_eq_some_iff] at hid
  obtain ⟨i, hi, rfl⟩ := hid
  obtain ⟨hlt, rfl⟩ := List.getElem?_eq_some_iff.mp hi
  rw [List.getElem_range]

end Pretended

/-- **An intact list has a history**, in which spare pages are held. -/
theorem Intact.tracks (hi : l.Intact page count held) (hcap : 2 ≤ l.capacity)
    (hseq : l.headSeq ≤ l.tailSeq) (hmark : l.watermark = l.tailSeq) :
    l.Tracks page count (l.pretended page) [] (held ++ l.spare page count held) := by
  have hindex := nodeIndex_mono (l := l) hseq
  have hnodes : (l.pretended page).nodes.length = l.nodeIndex l.tailSeq + 1 := by
    rw [pretended, List.length_append, List.length_replicate, length_nodes]
    omega
  have hlt : l.tailSeq < (l.nodeIndex l.tailSeq + 1) * l.capacity := by
    rw [Nat.mul_comm]
    exact Nat.lt_mul_div_succ l.tailSeq (by omega)
  have hle : l.nodeIndex l.tailSeq * l.capacity ≤ l.tailSeq := Nat.div_mul_le_self _ _
  have hmem : l.headPage ∈ l.used page held := by
    have hhead := List.mem_of_mem_head? (l.nodes_head? page)
    exact List.mem_append_left _ (List.mem_append_right _ hhead)
  refine {
    two_le_capacity := hcap
    tailSeq_eq := ?_
    kept_le := Nat.le_refl _
    headSeq_le := by rw [hmark]; exact hseq
    watermark_le := Nat.le_of_eq hmark
    watermark_lt := by rw [hmark, hnodes]; exact hlt
    tailSeq_le := by rw [hnodes]; exact Nat.le_of_lt hlt
    nodes_le := by rw [hnodes, Nat.succ_mul]; omega
    headPage_eq := ?_
    tailPage_eq := ?_
    slot_eq := ?_
    link_eq := ?_
    recycled := fun k node hk hk' => absurd hk' (Nat.not_lt.mpr hk)
    count_pos := Nat.lt_of_le_of_lt (Nat.zero_le _) (hi.used_range _ hmem).2
    partition := ?_ }
  · rw [pretended, List.length_append, List.length_replicate, length_items]
    omega
  · rw [pretended, List.getElem?_append_right (by rw [List.length_replicate]),
      List.length_replicate, Nat.sub_self, ← List.head?_eq_getElem?, l.nodes_head? page]
  · have hne : l.nodes page ≠ [] := by
      intro hnil
      have hhead := l.nodes_head? page
      rw [hnil] at hhead
      cases hhead
    rw [pretended, List.getLast?_append_of_ne_nil _ hne]
    exact hi.nodes_getLast?
  · intro s id node hs hid hn
    rw [← pretended_item hs hid, itemAt, pretended_node (nodeIndex_mono hs) hn]
  · intro k node next hk hn hnext
    have hk' : l.nodeIndex l.headSeq ≤ k := hk
    rw [← pretended_node hk' hn, ← pretended_node (Nat.le_succ_of_le hk') hnext,
      Nat.succ_sub hk']
    rfl
  · have hdrop : ∀ (n : Nat) (xs : List PageId),
        (List.replicate n PageId.null ++ xs).drop n = xs := fun n xs =>
      List.drop_left' (List.length_replicate ..)
    rw [pretended, hdrop, hdrop, List.nil_append]
    exact hi.perm

end FreeList

end PagedTables
