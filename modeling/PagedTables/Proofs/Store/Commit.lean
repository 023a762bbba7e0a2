/-
# Commits

A commit first changes pages in memory: it fills pages with the new snapshot and gives those of
the old one to the free list. None of these changes matters to the checkpoint that the file
holds, so writing any part of them leaves it readable. Only the meta page moves on to the next
checkpoint.

* `DurableStore.Staged.stored_of_torn` : a file with any part of them holds the old checkpoint;
* `DurableStore.Publishable.stored_of_complete` : a file with all of them holds the next one;
* `DurableStore.commit_outcome` : a commit leads to the next checkpoint, or stays at the last.
-/
import PagedTables.Proofs.Store.Poised

namespace PagedTables

namespace DurableStore

variable {s t : DurableStore} {c : Checkpoint} {h g : FreeHistory} {ids : List PageId}

/-! ## Changes in memory -/

/-- From `s` to `t` the entries were written to the pages `ids`, and the pages of the last
snapshot were given to the free list. -/
structure Staged (s t : DurableStore) (ids : List PageId) (h g : FreeHistory) : Prop where
  rest_eq : t = { s with free := t.free, pages := t.pages }
  ready : t.pool.Ready g ids
  grows : s.pool.Extends t.pool h g s.snapshot ids
  advances : s.pool.Advances t.pool (ids.length + s.snapshot.length) s.snapshot.length
  chain : Snapshot.Chain t.pages.view (Snapshot.payloadCapacity s.pages.pageSize) ids s.payloads

/-- Without spare pages, what was filled is staged. -/
theorem filled_nil : s.Filled t ids [] h g ↔ s.Staged t ids h g := by
  constructor
  · intro hst
    obtain ⟨hrest, hready, hgrows, hadv, hchain⟩ := hst
    rw [List.append_nil] at hready
    rw [List.append_nil, List.append_nil] at hgrows
    exact ⟨hrest, hready, hgrows, hadv, hchain⟩
  · intro hst
    obtain ⟨hrest, hready, hgrows, hadv, hchain⟩ := hst
    refine ⟨hrest, ?_, ?_, hadv, hchain⟩
    · rwa [List.append_nil]
    · rwa [List.append_nil, List.append_nil]

/-- A commit that is prepared has nothing to spare. -/
theorem Staged.filled (hst : s.Staged t ids h g) : s.Filled t ids [] h g :=
  filled_nil.mpr hst

/-- A settled store is ready for the next commit. -/
theorem Settled.ready (hs : s.Settled c h) : s.pool.Ready h s.snapshot := by
  have ht := hs.tracks
  refine ⟨⟨hs.sound, ?_, ht⟩, ?_⟩
  · show s.free.capacity = FreeNode.capacity s.pages.pageSize
    rw [hs.free_eq]
    rfl
  · have hlt := ht.watermark_lt
    have hmark : s.free.watermark = s.free.tailSeq := by
      rw [hs.free_eq]
      rfl
    rwa [hmark] at hlt

/-- A settled store is ready to commit. -/
theorem Settled.poised (hs : s.Settled c h) : s.Poised h [] where
  size_valid := hs.stored.size_valid
  ready := by
    rw [List.append_nil]
    exact hs.ready
  clean := hs.clean
  watermark_eq := by
    rw [hs.free_eq]
    rfl
  committed_eq := hs.committed_eq.trans hs.pageCount_eq.symm

/-! ## Torn files -/

section Torn

variable {file : Bytes}

/-- A torn file still has all pages of the checkpoint. -/
theorem Settled.length_le_of_torn (hs : s.Settled c h)
    (htorn : TornFrom s.pages.disk.bytes t.pages file) :
    c.pageCount * s.pages.pageSize ≤ file.length :=
  Nat.le_trans hs.stored.length_le htorn.length_le

/-- A torn file starts with the old meta page. -/
theorem Settled.take_of_torn (hs : s.Settled c h)
    (htorn : TornFrom s.pages.disk.bytes t.pages file)
    (htsize : t.pages.pageSize = s.pages.pageSize) :
    file.take MetaPage.size = s.pages.disk.bytes.take MetaPage.size := by
  have hsize := bounds_of_validPageSize hs.stored.size_valid
  have hlen := hs.stored.readable.size_le_length
  have hmeta : MetaPage.size = 80 := rfl
  apply List.ext_getElem?
  intro i
  rw [List.getElem?_take, List.getElem?_take]
  by_cases hi : i < MetaPage.size
  · rw [if_pos hi, if_pos hi]
    rcases htorn.byte i (by omega) with hold | ⟨hne, -⟩
    · exact hold
    · exact absurd (Nat.div_eq_of_lt (by omega)) hne
  · rw [if_neg hi, if_neg hi]

variable (hs : s.Settled c h) (hst : s.Staged t ids h g)
variable (htorn : TornFrom s.pages.disk.bytes t.pages file)
include hs hst htorn

/-- What is written to the nodes of the free list is not needed by the old list. -/
theorem Staged.tracks_of_torn : (FreeList.restore c.span s.pages.pageSize).Tracks
    (storedPage s.pages.pageSize file) c.pageCount h [] c.snapshot := by
  have htracks := hst.filled.tracks_of_mixed hs.poised htorn.length_le
    fun j hj _ => htorn.byte j hj
  rwa [List.append_nil, hs.free_eq, hs.pageCount_eq, hs.snapshot_eq] at htracks

/-- Nothing is written to the pages of the snapshot. -/
theorem Staged.snapshot_of_torn {id : PageId} (hid : id ∈ c.snapshot) :
    storedPage s.pages.pageSize file id =
      storedPage s.pages.pageSize s.pages.disk.bytes id := by
  obtain ⟨hpos, hlt⟩ := hs.stored.free.held_range hid
  have hsame : t.pages.view id = s.pages.view id :=
    hst.grows.page_eq id (List.mem_append_left _ (by rw [hs.snapshot_eq]; exact hid))
  rw [← hs.view_eq hpos hlt]
  apply List.ext_getElem?
  intro i
  rcases hst.filled.getElem?_of_mixed hs.poised htorn.length_le
    (fun j hj _ => htorn.byte j hj) hpos (by rw [hs.pageCount_eq]; exact hlt) i with hold | hnew
  · exact hold
  · rw [hnew, hsame]

/-- **A torn file holds the old checkpoint**, whatever part of the changes was written. -/
theorem Staged.stored_of_torn : Stored s.pages.pageSize file c h := by
  have hfree := hst.tracks_of_torn hs htorn
  refine { hs.stored with
    length_le := hs.length_le_of_torn htorn
    meta_eq := (hs.take_of_torn htorn hst.filled.pageSize_eq).trans hs.stored.meta_eq
    chain := ?_
    free := hfree
    queued_eq := ?_ }
  · obtain ⟨payloads, hchain, hstream⟩ := hs.stored.chain
    exact ⟨payloads, hchain.of_pages fun _ hid => hst.snapshot_of_torn hs htorn hid, hstream⟩
  · rw [hs.stored.queued_eq, hs.stored.free.items_eq, hfree.items_eq]

end Torn

/-! ## After publishing -/

/-- A free list whose items may all leave is like one that was read back. -/
theorem restore_eq_raiseWatermark {l : FreeList} {size : Nat}
    (hcap : l.capacity = FreeNode.capacity size) :
    FreeList.restore l.toFreeSpan size = l.raiseWatermark := by
  rw [FreeList.restore, ← hcap]
  rfl

/-- What a commit of the snapshot `ids` makes durable. -/
def pending (t : DurableStore) (ids : List PageId) : Checkpoint :=
  { t.checkpoint with snapshot := ids }

/-- All pages are in the file as the store shows them, and then the meta page was written. -/
structure Complete (t : DurableStore) (ids : List PageId) (file : Bytes) : Prop where
  length_le : t.pages.pageCount * t.pages.pageSize ≤ file.length
  page_eq : ∀ id : Nat, 0 < id → id < t.pages.pageCount →
    storedPage t.pages.pageSize file id = t.pages.view id
  meta_eq : file.take MetaPage.size = (t.metaPage (ids.headD PageId.null)).sealed

/-- The numbers of a store and its snapshot can be written. -/
structure Publishable (t : DurableStore) (g : FreeHistory) (ids : List PageId) : Prop where
  size_valid : validPageSize t.pages.pageSize = true
  ready : t.pool.Ready g ids
  chain : Snapshot.Chain t.pages.view (Snapshot.payloadCapacity t.pages.pageSize) ids t.payloads
  size_lt : t.index.size < 2 ^ 64
  seq_lt : t.free.tailSeq < 2 ^ 64
  count_lt : t.pages.pageCount < 2 ^ 64

/-- The free list of what is published has a history. -/
theorem Publishable.list (hp : t.Publishable g ids) :
    t.free.Tracks t.pages.view t.pages.pageCount g [] ids :=
  hp.ready.tracks.list

/-- There is room in the last node. -/
theorem Publishable.room (hp : t.Publishable g ids) :
    t.free.tailSeq < g.nodes.length * t.free.capacity :=
  hp.ready.room

theorem Publishable.capacity_eq (hp : t.Publishable g ids) :
    t.free.capacity = FreeNode.capacity t.pages.pageSize :=
  hp.ready.tracks.capacity_eq

/-- **A complete file holds the next checkpoint.** -/
theorem Publishable.stored_of_complete {file : Bytes} (hp : t.Publishable g ids)
    (hfile : t.Complete ids file) :
    Stored t.pages.pageSize file (t.pending ids) { g with kept := t.free.headSeq } := by
  have hfree : t.free.raiseWatermark.Tracks (storedPage t.pages.pageSize file)
      t.pages.pageCount { g with kept := t.free.headSeq } [] ids :=
    (hp.list.raise hp.room).of_pages fun id hpos hid _ => hfile.page_eq id hpos hid
  refine {
    size_valid := hp.size_valid
    size_lt := hp.size_lt
    count_lt := hp.count_lt
    seq_lt := hp.seq_lt
    length_le := hfile.length_le
    meta_eq := hfile.meta_eq
    chain := ⟨t.payloads, ?_, ?_⟩
    free := ?_
    queued_eq := ?_ }
  · refine hp.chain.of_pages fun id hid => ?_
    have hr := hp.list.held_range hid
    exact hfile.page_eq id hr.1 hr.2
  · exact flatten_payloads hp.size_valid
  · show FreeList.Tracks (FreeList.restore t.free.toFreeSpan t.pages.pageSize) _ _ _ [] ids
    rw [restore_eq_raiseWatermark hp.capacity_eq]
    exact hfree
  · show t.free.items t.pages.view =
      FreeList.items (FreeList.restore t.free.toFreeSpan t.pages.pageSize) _
    rw [restore_eq_raiseWatermark hp.capacity_eq, hfree.items_eq, hp.list.items_eq]
    rfl

section Published

variable {f : PageFile}

variable (hp : t.Publishable g ids) (hw : t.pages.Written f)
variable (hsealed : Sealed f (t.metaPage (ids.headD PageId.null)))
include hp hw hsealed

/-- Once all pages and the meta page are written, the file is complete. -/
theorem Publishable.complete : t.Complete ids f.disk.bytes where
  length_le := by
    have hpos : 0 < t.pages.pageCount := hp.list.count_pos
    have hlast : t.pages.pageCount - 1 < f.pageCount := by
      rw [hw.pageCount_eq]
      exact Nat.sub_lt hpos Nat.one_pos
    have hle := hw.sound.stored_le hlast fun p hp => hsealed.clean _ p hp
    rwa [Nat.sub_add_cancel hpos, hw.pageSize_eq] at hle
  page_eq _ hpos hid := storedPage_of_written hw hsealed.clean hpos hid
  meta_eq := hsealed.meta_eq

/-- The store is at the checkpoint that was to be made durable. -/
theorem Publishable.checkpoint_published : (t.published ids f).checkpoint = t.pending ids := by
  have hpages : f.evictClean.pageCount = t.pages.pageCount := hw.pageCount_eq
  have hfree : t.free.raiseWatermark.Tracks f.evictClean.view t.pages.pageCount
      { g with kept := t.free.headSeq } [] ids :=
    (hp.list.raise hp.room).of_pages fun id hpos hid _ => view_evictClean hw hsealed.clean hpos hid
  have hitems : t.free.raiseWatermark.items f.evictClean.view = t.free.items t.pages.view := by
    rw [hfree.items_eq, hp.list.items_eq]
    rfl
  show (⟨_, _, _, t.free.raiseWatermark.items f.evictClean.view, f.evictClean.pageCount⟩ :
    Checkpoint) = ⟨_, _, _, t.free.items t.pages.view, t.pages.pageCount⟩
  rw [hitems, hpages]
  rfl

/-- When everything is written, the file holds the next checkpoint. -/
theorem Publishable.settled_published : (t.published ids f).Settled (t.pending ids)
    { g with kept := t.free.headSeq } where
  stored := by
    show Stored f.pageSize f.disk.bytes _ _
    rw [hw.pageSize_eq]
    exact hp.stored_of_complete (hp.complete hw hsealed)
  sound := hw.sound.evictClean
  clean := hsealed.clean.evictClean
  free_eq := by
    show t.free.raiseWatermark = FreeList.restore t.free.toFreeSpan f.pageSize
    rw [hw.pageSize_eq, restore_eq_raiseWatermark hp.capacity_eq]
  snapshot_eq := rfl
  pageCount_eq := hw.pageCount_eq
  committed_eq := rfl

end Published

/-- As long as the meta page is the old one, what was written is part of a torn file. -/
theorem Staged.torn_of_written {f : PageFile} (hs : s.Settled c h) (hst : s.Staged t ids h g)
    (hw : t.pages.Written f)
    (hmeta : storedPage s.pages.pageSize f.disk.bytes PageId.metaPage =
      storedPage s.pages.pageSize s.pages.disk.bytes PageId.metaPage) :
    TornFrom s.pages.disk.bytes t.pages f.disk.bytes := by
  have htsize := hst.filled.pageSize_eq
  have hdisk := hst.filled.disk_eq
  rw [← hdisk]
  apply hw.torn
  intro j _ hpage
  have hpos : 0 < s.pages.pageSize := by
    have := bounds_of_validPageSize hs.stored.size_valid
    omega
  have hlt : j < s.pages.pageSize := by
    rw [htsize] at hpage
    exact (Nat.div_eq_zero_iff_lt hpos).mp hpage
  have hbyte := congrArg (·[j]?) hmeta
  simp only [getElem?_storedPage hlt, PageId.metaPage, Nat.zero_mul, Nat.zero_add] at hbyte
  rw [hbyte, hdisk]

/-- A commit that fails before the meta page is written is undone. -/
theorem Staged.settled_rolledBack {f : PageFile} (hs : s.Settled c h)
    (hst : s.Staged t ids h g) (hw : t.pages.Written f)
    (hmeta : storedPage s.pages.pageSize f.disk.bytes PageId.metaPage =
      storedPage s.pages.pageSize s.pages.disk.bytes PageId.metaPage) :
    (s.rolledBack t f).Settled c h := by
  have hpoised := hst.filled.poised_rolledBack hs.poised hw
  have hfsize : f.pageSize = s.pages.pageSize := hw.pageSize_eq.trans hst.filled.pageSize_eq
  have hcommitted : t.committedPages = c.pageCount := by
    rw [hst.rest_eq]
    exact hs.committed_eq
  refine {
    stored := ?_
    sound := hpoised.ready.tracks.sound
    clean := hpoised.clean
    free_eq := ?_
    snapshot_eq := ?_
    pageCount_eq := hpoised.committed_eq.symm.trans hcommitted
    committed_eq := hcommitted }
  · show Stored f.pageSize f.disk.bytes c h
    rw [hfsize]
    exact hst.stored_of_torn hs (hst.torn_of_written hs hw hmeta)
  · show s.free = FreeList.restore c.span f.pageSize
    rw [hfsize, hs.free_eq]
  · show t.snapshot = c.snapshot
    rw [hst.rest_eq]
    exact hs.snapshot_eq

/-! ## Committing -/

/-- What was staged can be published. -/
theorem Staged.publishable (hs : s.Poised h []) (hst : s.Staged t ids h g) (hroom : s.HasRoom)
    (hlt : s.index.size < 2 ^ 64) : t.Publishable g ids := by
  have htsize := hst.filled.pageSize_eq
  have hindex := hst.filled.index_eq
  have hpayloads : t.payloads = s.payloads := by
    unfold payloads
    rw [hindex, htsize]
  obtain ⟨hseq, hcount⟩ := hst.filled.bounds hroom
  refine ⟨?_, hst.ready, ?_, ?_, hseq, hcount⟩
  · rw [htsize]
    exact hs.size_valid
  · rw [hpayloads, htsize]
    exact hst.chain
  · rw [hindex]
    exact hlt

/-- **A commit** writes everything, or is undone at a fault. -/
theorem commit_outcome (hs : s.Settled c h) (hroom : s.HasRoom) :
    ∃ ids t g f, stage s = .ok ids t ∧ s.Staged t ids h g ∧ t.pages.Written f ∧
      ((commit s = .ok () (t.published ids f) ∧ Sealed f (t.metaPage (ids.headD PageId.null))) ∨
        ∃ e, commit s = .error e (s.rolledBack t f) ∧ s.pages.disk.faults ≠ []) := by
  obtain ⟨ids, t, g, f, hstage, hst, hw, hout⟩ := hs.poised.commit_outcome hroom
  refine ⟨ids, t, g, f, hstage, filled_nil.mp hst, hw, hout.imp_right ?_⟩
  exact fun ⟨e, hrun, hfaults, _⟩ => ⟨e, hrun, hfaults⟩

end DurableStore

end PagedTables
