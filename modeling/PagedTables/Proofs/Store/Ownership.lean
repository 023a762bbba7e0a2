/-
# Owners of pages

Every page of a file but the meta page has one owner: the snapshot of the last commit, the chain
of free list nodes, or the queue in these nodes. No page is lost, and none is used twice.

* `DurableStore.Partitioned` : the owners of the pages;
* `DurableStore.Reached.partitioned` : every reached store has its pages partitioned.
-/
import PagedTables.Proofs.Store.Reached

namespace PagedTables

namespace DurableStore

variable {s : DurableStore} {c : Checkpoint} {h : FreeHistory} {v : Nat}

/-- The nodes of the free list, by following the links from the head. -/
def freeNodes (s : DurableStore) : List PageId :=
  s.free.nodes s.pages.view

/-- The items of the free list, in the slots of its nodes. -/
def freeItems (s : DurableStore) : List PageId :=
  s.free.items s.pages.view

/-- Each page but the meta page has one owner: the chain with the committed entries, the nodes
of the free list from head to tail, or the items queued in them. -/
structure Partitioned (s : DurableStore) (c : Checkpoint) : Prop where
  snapshot_chain : ∃ payloads, Snapshot.Chain s.pages.view
    (Snapshot.payloadCapacity s.pages.pageSize) s.snapshot payloads ∧
    payloads.flatten = Snapshot.encodeEntries c.entries.toList
  head_eq : s.freeNodes.head? = some s.free.headPage
  tail_eq : s.freeNodes.getLast? = some s.free.tailPage
  count_eq : ∀ id : Nat, s.snapshot.count id + s.freeNodes.count id + s.freeItems.count id =
    if 0 < id ∧ id < s.pages.pageCount then 1 else 0
  pageCount_eq : s.stats.pageCount = 1 + s.stats.snapshotPages + s.stats.freePages +
    (s.free.tailSeq / FreeNode.capacity s.pages.pageSize -
      s.free.headSeq / FreeNode.capacity s.pages.pageSize + 1)

/-- The number of items, in 64-bit arithmetic. -/
theorem length_free (hle : s.free.headSeq ≤ s.free.tailSeq) (hlt : s.free.tailSeq < 2 ^ 64) :
    s.free.length = s.free.tailSeq - s.free.headSeq := by
  unfold FreeList.length
  rw [Nat.sub_add_comm hle, Nat.add_mod_right]
  exact Nat.mod_eq_of_lt (Nat.lt_of_le_of_lt (Nat.sub_le _ _) hlt)

/-- The pages of a settled store are partitioned. -/
theorem Settled.partition (hs : s.Settled c h) : s.Partitioned c := by
  have ht := hs.tracks
  have hroom : s.free.tailSeq < h.nodes.length * s.free.capacity := hs.ready.room
  have howners : (s.snapshot ++ s.freeNodes ++ s.freeItems).Perm
      (List.range' 1 (s.pages.pageCount - 1)) :=
    ht.owners hroom
  have hcap : s.free.capacity = FreeNode.capacity s.pages.pageSize := by
    rw [hs.free_eq]
    rfl
  refine ⟨?_, s.free.nodes_head? _, ht.nodes_getLast? hroom, ?_, ?_⟩
  · obtain ⟨payloads, hchain, hstream⟩ := hs.stored.chain
    rw [← hs.snapshot_eq] at hchain
    refine ⟨payloads, hchain.of_pages fun id hid => ?_, hstream⟩
    have hr := ht.held_range hid
    rw [hs.pageCount_eq] at hr
    exact hs.view_eq hr.1 hr.2
  · intro id
    have hnodup : (List.range' 1 (s.pages.pageCount - 1)).Nodup := List.nodup_range'
    have hmem : id ∈ List.range' 1 (s.pages.pageCount - 1) ↔ 0 < id ∧ id < s.pages.pageCount := by
      rw [List.mem_range'_1]
      omega
    rw [← List.count_append, ← List.count_append, howners.count_eq, hnodup.count]
    exact if_congr hmem rfl rfl
  · have hlen := howners.length_eq
    have hseq : s.free.headSeq ≤ s.free.tailSeq := Nat.le_trans ht.headSeq_le ht.watermark_le
    have hlt : s.free.tailSeq < 2 ^ 64 := by
      rw [hs.free_eq]
      exact hs.stored.seq_lt
    have hpos := ht.count_pos
    have hitems := length_free hseq hlt
    rw [List.length_append, List.length_append, List.length_range', freeNodes, freeItems,
      FreeList.length_nodes, FreeList.length_items, FreeList.nodeIndex, FreeList.nodeIndex,
      hcap] at hlen
    show s.pages.pageCount = 1 + s.snapshot.length + s.free.length + _
    omega

/-- **No page is lost or used twice.** In every reached state each page but the meta page has
one owner. -/
theorem Reached.partitioned (hr : Reached c v s) (hv : v < 2 ^ 60) : s.Partitioned c := by
  obtain ⟨⟨h, hs⟩, -⟩ := hr.settled hv
  exact hs.partition

/-- The pages after the first commit to a new file. -/
theorem partitioned_of_first_update : ∃ s t, «open» "data" .absent {} = .ok s ∧
    (StoreCall.update [1] [2] .upsert).run (s.withFaults []) = .ok (.written ⟨true, true⟩) t ∧
    t.Partitioned t.checkpoint := by
  obtain ⟨s, t, hopen, hrun, -, ht⟩ := exists_first_written "data"
    (show StoreOptions.check {} = .ok () by decide) rfl rfl
    (show MemoryStore.checkEntry _ [1] [2] = .ok () from rfl) (by decide)
  exact ⟨s, t, hopen, hrun, ht.partitioned (by decide)⟩

end DurableStore

end PagedTables
