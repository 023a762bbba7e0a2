/-
# Stores that are ready to commit

What a commit needs, and what it leaves for the next one: a free list whose history is in the
pages, and no changed page. Besides the snapshot and the list there may be spare pages, which
nobody uses. Nothing is said of the meta page, so this also holds where the file describes
another state than the one in memory.

* `DurableStore.Poised` : the stores that are ready;
* `DurableStore.Poised.stage_ok` : the changes in memory never fail;
* `DurableStore.Poised.commit_outcome` : a commit writes everything, or fails at a fault;
* `DurableStore.Filled.poised_published`, `DurableStore.Filled.poised_rolledBack` : in both
  cases the store is ready again.
-/
import PagedTables.Proofs.FreeList.Steps
import PagedTables.Proofs.Store.Publish

namespace PagedTables

/-! ## Filling pages -/

namespace PagePool

/-- Filling pages that are held leaves all other pages and the free list. -/
theorem Ready.fill_ok {p : PagePool PageFile} {h : FreeHistory} {ids held : List PageId}
    {payloads : List Bytes} (hp : p.Ready h (ids ++ held)) (hlen : ids.length = payloads.length)
    (hcount : p.pages.pageCount < 2 ^ 64) (hvalid : validPageSize p.pages.pageSize = true)
    (hdata : ∀ data ∈ payloads, data.length ≤ Snapshot.payloadCapacity p.pages.pageSize) :
    ∃ k, Snapshot.writeChain ids payloads p.pages = .ok () k ∧
      Ready ⟨p.free, k⟩ h (ids ++ held) ∧ p.Extends ⟨p.free, k⟩ h h held held ∧
      k.pageCount = p.pages.pageCount ∧
      Snapshot.Chain (PageView.page k) (Snapshot.payloadCapacity p.pages.pageSize) ids payloads := by
  have hsize := bounds_of_validPageSize hvalid
  have hroom : Snapshot.headerSize + Snapshot.payloadCapacity p.pages.pageSize ≤
      p.pages.pageSize := by
    rw [Snapshot.payloadCapacity, Snapshot.headerSize]
    omega
  have hcap : Snapshot.payloadCapacity p.pages.pageSize < 2 ^ 32 := by
    rw [Snapshot.payloadCapacity, Snapshot.headerSize]
    omega
  obtain ⟨hnodup, -, hdisjoint⟩ := List.nodup_append.mp hp.tracks.list.nodup_held
  obtain ⟨k, pages, hwrite, hbec, hsame, hchain⟩ := Snapshot.writeChain_ok hp.tracks.sound
    (fun id hid => (hp.tracks.list.held_range (List.mem_append_left _ hid)).2) hnodup hlen
    hcount hroom hcap hdata
  refine ⟨k, hwrite, ?_, ?_, hbec.pageCount_eq, ?_⟩
  · exact hp.of_becomes hbec fun id hid =>
      hsame id fun hid' => hid (List.mem_append_left _ hid')
  · refine Extends.of_becomes hbec (fun id hid => hsame id ?_) rfl rfl (Nat.le_refl _)
    intro hid'
    rcases List.mem_append.mp hid with hheld | hitem
    · exact hdisjoint id hid' id hheld rfl
    · exact hp.tracks.list.notMem_held_of_item
        (hp.tracks.list.mem_drop_headSeq hitem) (List.mem_append_left _ hid')
  · rw [hbec.page_eq]
    exact hchain

end PagePool

namespace DurableStore

variable {s t u : DurableStore} {h g : FreeHistory} {ids spare : List PageId} {f : PageFile}

/-! ## Ready stores -/

/-- The free list of a store with its pages. -/
def pool (s : DurableStore) : PagePool PageFile :=
  ⟨s.free, s.pages⟩

/-- An action on free list and pages leaves the rest of the store. -/
theorem onPool_ok {α : Type} {act : Action StoreError (PagePool PageFile) α} {a : α}
    {q : PagePool PageFile} (h : act s.pool = .ok a q) :
    onPool act s = .ok a { s with free := q.free, pages := q.pages } :=
  Action.within_ok h

/-- The pages hold the history of the free list, all of its items may leave, and no page was
changed. Pages that are neither in the snapshot nor in the list are spare. -/
structure Poised (s : DurableStore) (h : FreeHistory) (spare : List PageId) : Prop where
  size_valid : validPageSize s.pages.pageSize = true
  ready : s.pool.Ready h (s.snapshot ++ spare)
  clean : s.pages.Clean
  watermark_eq : s.free.watermark = s.free.tailSeq
  committed_eq : s.committedPages = s.pages.pageCount

/-- From `s` to `t` the entries were written to the pages `ids`, and the pages of the last
snapshot were given to the free list. Spare pages stay spare. -/
structure Filled (s t : DurableStore) (ids spare : List PageId) (h g : FreeHistory) : Prop where
  rest_eq : t = { s with free := t.free, pages := t.pages }
  ready : t.pool.Ready g (ids ++ spare)
  grows : s.pool.Extends t.pool h g (s.snapshot ++ spare) (ids ++ spare)
  advances : s.pool.Advances t.pool (ids.length + s.snapshot.length) s.snapshot.length
  chain : Snapshot.Chain t.pages.view (Snapshot.payloadCapacity s.pages.pageSize) ids s.payloads

theorem Filled.pageSize_eq (hst : s.Filled t ids spare h g) :
    t.pages.pageSize = s.pages.pageSize :=
  hst.grows.pageSize_eq

/-- Nothing is written yet. -/
theorem Filled.disk_eq (hst : s.Filled t ids spare h g) : t.pages.disk = s.pages.disk :=
  congrArg Prod.snd hst.grows.rest_eq

theorem Filled.index_eq (hst : s.Filled t ids spare h g) : t.index = s.index := by
  rw [hst.rest_eq]

theorem Filled.snapshot_eq (hst : s.Filled t ids spare h g) : t.snapshot = s.snapshot := by
  rw [hst.rest_eq]

/-- The payloads make up the stream of the entries. -/
theorem flatten_payloads (hvalid : validPageSize s.pages.pageSize = true) :
    s.payloads.flatten = Snapshot.encodeEntries s.index.entries.toList := by
  have hbounds := bounds_of_validPageSize hvalid
  rw [payloads, Bytes.flatten_chunks]
  rw [Snapshot.payloadCapacity, Snapshot.headerSize]
  omega

/-- Staging gets by with 64-bit numbers. -/
structure HasRoom (s : DurableStore) : Prop where
  seq_lt : s.free.tailSeq + 2 * (s.payloads.length + s.snapshot.length) < 2 ^ 64
  count_lt : s.pages.pageCount + (s.payloads.length + s.snapshot.length) < 2 ^ 64

/-- Numbers of 64 bits are enough for the commit of some entries. -/
structure HasRoomFor (s : DurableStore) (m : MemoryStore) : Prop where
  room : ({ s with index := m } : DurableStore).HasRoom
  size_lt : m.size < 2 ^ 64

instance (s : DurableStore) (m : MemoryStore) : Decidable (s.HasRoomFor m) :=
  let u : DurableStore := { s with index := m }
  decidable_of_iff
    ((u.free.tailSeq + 2 * (u.payloads.length + u.snapshot.length) < 2 ^ 64 ∧
      u.pages.pageCount + (u.payloads.length + u.snapshot.length) < 2 ^ 64) ∧ m.size < 2 ^ 64)
    ⟨fun h => ⟨⟨h.1.1, h.1.2⟩, h.2⟩, fun h => ⟨⟨h.room.seq_lt, h.room.count_lt⟩, h.size_lt⟩⟩

/-! ## Changes in memory -/

/-- **Staging never fails**, whatever the entries are. -/
theorem Poised.stage_ok (hs : s.Poised h spare) (hroom : s.HasRoom) :
    ∃ ids t g, stage s = .ok ids t ∧ s.Filled t ids spare h g := by
  have hseq := hroom.seq_lt
  have hcount := hroom.count_lt
  -- pages for the new snapshot
  obtain ⟨ids, p, f, hrun, hlen, hready, hext, hadv⟩ := PagePool.allocateMany_ok
    s.payloads.length hs.ready (by show s.free.tailSeq + _ < _; omega)
    (by show s.pages.pageCount + _ < _; omega)
  have htail : p.free.tailSeq ≤ s.free.tailSeq + 2 * s.payloads.length := hadv.tailSeq_le
  have hpages : p.pages.pageCount ≤ s.pages.pageCount + s.payloads.length := hadv.pageCount_le
  have hpsize : p.pages.pageSize = s.pages.pageSize := hext.pageSize_eq
  -- the new snapshot goes to these pages
  obtain ⟨k, hwrite, hready', hext', hkcount, hchain⟩ := hready.fill_ok hlen (by omega)
    (by rw [hpsize]; exact hs.size_valid)
    (fun data hdata => by rw [hpsize]; exact Bytes.length_of_mem_chunks hdata)
  have hadv' : p.Advances ⟨p.free, k⟩ 0 0 := ⟨rfl, Nat.le_refl _, Nat.le_of_eq hkcount⟩
  -- the pages of the old one go to the free list
  have hperm : (ids ++ (s.snapshot ++ spare)).Perm (s.snapshot ++ (ids ++ spare)) := by
    rw [← List.append_assoc, ← List.append_assoc]
    exact List.perm_append_comm.append_right spare
  obtain ⟨q, g, hpush, hready'', hext'', hadv''⟩ := PagePool.pushAll_ok s.snapshot
    (hready'.of_perm hperm)
    (by
      show p.free.tailSeq + 2 * s.snapshot.length < 2 ^ 64
      omega)
    (by
      show k.pageCount + s.snapshot.length < 2 ^ 64
      omega)
  refine ⟨ids, { s with free := q.free, pages := q.pages }, g, ?_, rfl, hready'', ?_, ?_, ?_⟩
  · unfold stage
    rw [Action.get_bind, Action.bind_ok (onPool_ok hrun), Action.bind_ok (onPages_ok hwrite),
      Action.bind_ok (onPool_ok hpush)]
    rfl
  · have hsub : s.snapshot ++ spare ⊆ s.snapshot ++ (ids ++ spare) :=
      fun _ hid => hperm.subset (List.mem_append_right _ hid)
    exact ((hext.same_held.trans hext').hold hsub).trans hext''
  · have hall := (hadv.trans hadv').trans hadv''
    rw [Nat.add_zero, Nat.zero_add, ← hlen] at hall
    exact hall
  · -- what is pushed does not touch the new snapshot, as its pages are held
    rw [hpsize] at hchain
    refine hchain.of_pages fun id hid => hext''.page_eq id ?_
    exact List.mem_append_left _ (List.mem_append_right _ (List.mem_append_left _ hid))

/-- The numbers of a commit that is prepared fit 64 bits. -/
theorem Filled.bounds (hst : s.Filled t ids spare h g) (hroom : s.HasRoom) :
    t.free.tailSeq < 2 ^ 64 ∧ t.pages.pageCount < 2 ^ 64 := by
  have hseq := hroom.seq_lt
  have hcount := hroom.count_lt
  have htail : t.free.tailSeq ≤ s.free.tailSeq + 2 * (ids.length + s.snapshot.length) :=
    hst.advances.tailSeq_le
  have hpages : t.pages.pageCount ≤ s.pages.pageCount + (ids.length + s.snapshot.length) :=
    hst.advances.pageCount_le
  rw [hst.chain.length_eq] at htail hpages
  exact ⟨by omega, by omega⟩

/-! ## Committing -/

/-- The store after a commit whose pages were written as `f`. -/
def published (t : DurableStore) (ids : List PageId) (f : PageFile) : DurableStore :=
  { t with
    pages := f.evictClean
    free := t.free.raiseWatermark
    committedPages := t.pages.pageCount
    snapshot := ids
    dirty := false }

/-- The store after a commit that failed when its pages were written as `f`. -/
def rolledBack (s t : DurableStore) (f : PageFile) : DurableStore :=
  { t with
    free := s.free
    pages := f.discardUncommitted t.committedPages }

/-- **A commit** writes everything, or is undone at a fault. The fault comes before the meta page
is written, or after everything is. -/
theorem Poised.commit_outcome (hs : s.Poised h spare) (hroom : s.HasRoom) :
    ∃ ids t g f, stage s = .ok ids t ∧ s.Filled t ids spare h g ∧ t.pages.Written f ∧
      ((commit s = .ok () (t.published ids f) ∧ Sealed f (t.metaPage (ids.headD PageId.null))) ∨
        ∃ e, commit s = .error e (s.rolledBack t f) ∧ s.pages.disk.faults ≠ [] ∧
          (t.pages.SameMeta f ∨ Sealed f (t.metaPage (ids.headD PageId.null)))) := by
  obtain ⟨ids, t, g, hstage, hst⟩ := hs.stage_ok hroom
  have hcount := (hst.bounds hroom).2
  have htsize := hst.pageSize_eq
  have hsize := bounds_of_validPageSize hs.size_valid
  have hdisk := hst.disk_eq
  obtain ⟨f, hw, hout⟩ := publishPages_writes (s := t)
    (t.metaPage (ids.headD PageId.null)) hst.ready.tracks.sound
    hst.ready.tracks.list.one_lt_count
    (by rw [htsize, MetaPage.size]; omega)
  refine ⟨ids, t, g, f, hstage, hst, hw, ?_⟩
  rcases hout with ⟨_, hrun, hsealed⟩ | ⟨e, hrun, hfaults, hstuck⟩
  · refine Or.inl ⟨?_, hsealed⟩
    have hwrite : writeSnapshot s = .ok () { t with
        pages := f.evictClean
        free := t.free.raiseWatermark
        committedPages := t.pages.pageCount
        snapshot := ids } := by
      unfold writeSnapshot
      rw [Action.bind_ok hstage, Action.bind_ok (publish_ok hcount hrun)]
      rfl
    unfold commit
    rw [Action.get_bind, Action.bind_ok (Action.attempt_ok hwrite)]
    rfl
  · refine Or.inr ⟨e, ?_, by rw [← hdisk]; exact hfaults, hstuck⟩
    have hwrite : writeSnapshot s = .error e { t with pages := f } := by
      unfold writeSnapshot
      rw [Action.bind_ok hstage, Action.bind_error (publish_error hrun)]
    unfold commit
    rw [Action.get_bind, Action.bind_ok (Action.attempt_error hwrite)]
    rfl

/-- The store after a commit that succeeded. -/
theorem Poised.published_of_commit (hs : s.Poised h spare) (hroom : s.HasRoom)
    (hrun : commit s = .ok () u) : ∃ ids t g f, s.Filled t ids spare h g ∧ t.pages.Written f ∧
      Sealed f (t.metaPage (ids.headD PageId.null)) ∧ u = t.published ids f := by
  obtain ⟨ids, t, g, f, -, hst, hw, ⟨hrun', hsealed⟩ | ⟨e, hrun', -⟩⟩ := hs.commit_outcome hroom
  · rw [hrun] at hrun'
    injection hrun' with _ hu
    exact ⟨ids, t, g, f, hst, hw, hsealed, hu⟩
  · rw [hrun] at hrun'
    cases hrun'

/-- The store after a commit that failed. -/
theorem Poised.rolledBack_of_commit {e : StoreError} (hs : s.Poised h spare) (hroom : s.HasRoom)
    (hrun : commit s = .error e u) : ∃ ids t g f, s.Filled t ids spare h g ∧ t.pages.Written f ∧
      (t.pages.SameMeta f ∨ Sealed f (t.metaPage (ids.headD PageId.null))) ∧
      u = s.rolledBack t f := by
  obtain ⟨ids, t, g, f, -, hst, hw, ⟨hrun', -⟩ | ⟨e', hrun', -, hstuck⟩⟩ :=
    hs.commit_outcome hroom
  · rw [hrun] at hrun'
    cases hrun'
  · rw [hrun] at hrun'
    injection hrun' with _ hu
    exact ⟨ids, t, g, f, hst, hw, hstuck, hu⟩

/-! ## Ready again -/

/-- A clean file holds every page as it was shown before. -/
theorem storedPage_of_written (hw : t.pages.Written f) (hclean : f.Clean) {id : Nat}
    (hpos : 0 < id) (hid : id < t.pages.pageCount) :
    storedPage t.pages.pageSize f.disk.bytes id = t.pages.view id := by
  rw [← hw.view_eq id (Nat.ne_of_gt hpos), ← hw.pageSize_eq]
  exact (hw.sound.view_eq_storedPage hclean (by rw [hw.pageCount_eq]; exact hid)
    (Nat.ne_of_gt hpos)).symm

/-- Without the pages in the cache, every page is shown as before. -/
theorem view_evictClean (hw : t.pages.Written f) (hclean : f.Clean) {id : Nat} (hpos : 0 < id)
    (hid : id < t.pages.pageCount) : f.evictClean.view id = t.pages.view id := by
  have hid' : id < f.evictClean.pageCount := by
    show id < f.pageCount
    rw [hw.pageCount_eq]
    exact hid
  rw [hw.sound.evictClean.view_eq_storedPage hclean.evictClean hid' (Nat.ne_of_gt hpos)]
  show storedPage f.pageSize f.disk.bytes id = t.pages.view id
  rw [hw.pageSize_eq, storedPage_of_written hw hclean hpos hid]

/-- After a commit that succeeds. -/
theorem Filled.poised_published (hs : s.Poised h spare) (hst : s.Filled t ids spare h g)
    (hw : t.pages.Written f) (hclean : f.Clean) :
    (t.published ids f).Poised { g with kept := t.free.headSeq } spare where
  size_valid := by
    have hfsize : f.pageSize = s.pages.pageSize := hw.pageSize_eq.trans hst.pageSize_eq
    show validPageSize f.pageSize = true
    rw [hfsize]
    exact hs.size_valid
  ready := by
    refine ⟨⟨hw.sound.evictClean, ?_, ?_⟩, hst.ready.room⟩
    · have hcap : t.free.capacity = FreeNode.capacity t.pages.pageSize :=
        hst.ready.tracks.capacity_eq
      show t.free.capacity = FreeNode.capacity f.pageSize
      rw [hw.pageSize_eq, hcap]
    · have hlist := hst.ready.tracks.list.raise hst.ready.room
      show t.free.raiseWatermark.Tracks f.evictClean.view f.pageCount _ [] _
      rw [hw.pageCount_eq]
      exact hlist.of_pages fun id hpos hid _ => view_evictClean hw hclean hpos hid
  clean := hclean.evictClean
  watermark_eq := rfl
  committed_eq := hw.pageCount_eq.symm

/-- All pages of a ready store are in its file. -/
theorem Poised.length_le (hs : s.Poised h spare) :
    s.pages.pageCount * s.pages.pageSize ≤ s.pages.disk.bytes.length := by
  have hpos : 0 < s.pages.pageCount := hs.ready.tracks.list.count_pos
  have hlast : s.pages.pageCount - 1 < s.pages.pageCount := Nat.sub_lt hpos Nat.one_pos
  have hsound : s.pages.Sound := hs.ready.tracks.sound
  have hle := hsound.stored_le hlast (hs.clean _)
  rwa [Nat.sub_add_cancel hpos] at hle

/-- The store shows its pages as the file holds them. -/
theorem Poised.view_eq (hs : s.Poised h spare) {id : Nat} (hpos : 0 < id)
    (hlt : id < s.pages.pageCount) :
    s.pages.view id = storedPage s.pages.pageSize s.pages.disk.bytes id :=
  PageFile.Sound.view_eq_storedPage hs.ready.tracks.sound hs.clean hlt (Nat.ne_of_gt hpos)

section Mixed

variable {file : Bytes} (hs : s.Poised h spare) (hst : s.Filled t ids spare h g)
variable (hlen : s.pages.disk.bytes.length ≤ file.length)
variable (hbyte : ∀ j < s.pages.disk.bytes.length, j / s.pages.pageSize ≠ PageId.metaPage →
  file[j]? = s.pages.disk.bytes[j]? ∨ t.pages.NewByte j file[j]?)
include hs hst hlen hbyte

/-- While the changes are written, a byte of a page is the old byte or the new one. -/
theorem Filled.getElem?_of_mixed {id : Nat} (hpos : 0 < id) (hlt : id < s.pages.pageCount)
    (i : Nat) : (storedPage s.pages.pageSize file id)[i]? = (s.pages.view id)[i]? ∨
      (storedPage s.pages.pageSize file id)[i]? = (t.pages.view id)[i]? := by
  have htsize := hst.pageSize_eq
  have htcount : s.pages.pageCount ≤ t.pages.pageCount := hst.grows.pageCount_le
  have hfile := hs.length_le
  have hold := length_storedPage_of_lt hlt hfile
  have hnew := length_storedPage_of_lt hlt (Nat.le_trans hfile hlen)
  rw [hs.view_eq hpos hlt]
  by_cases hi : i < s.pages.pageSize
  · have hin : id * s.pages.pageSize + i < s.pages.disk.bytes.length := by
      have hle : (id + 1) * s.pages.pageSize ≤ s.pages.pageCount * s.pages.pageSize :=
        Nat.mul_le_mul_right _ hlt
      rw [Nat.succ_mul] at hle
      omega
    have hdiv : (id * s.pages.pageSize + i) / s.pages.pageSize = id :=
      Nat.div_eq_of_lt_le (Nat.le_add_right _ _) (by rw [Nat.succ_mul]; omega)
    have hmod : (id * s.pages.pageSize + i) % s.pages.pageSize = i := by
      rw [Nat.mul_comm, Nat.mul_add_mod, Nat.mod_eq_of_lt hi]
    rw [getElem?_storedPage hi, getElem?_storedPage hi]
    rcases hbyte _ hin (by rw [hdiv]; exact Nat.ne_of_gt hpos) with hsame | ⟨-, p, hp, -, hwritten⟩
    · exact Or.inl hsame
    · right
      rw [htsize, hdiv] at hp
      rw [htsize, hmod] at hwritten
      rw [hwritten, PageFile.view_cached (by omega) hp]
  · left
    rw [List.getElem?_eq_none (by omega), List.getElem?_eq_none (by omega)]

/-- What is written to the nodes of the free list is not needed by the old list. -/
theorem Filled.tracks_of_mixed : s.free.Tracks (storedPage s.pages.pageSize file)
    s.pages.pageCount h [] (s.snapshot ++ spare) := by
  have hcap : t.free.capacity = s.free.capacity := hst.grows.capacity_eq
  have htsize := hst.pageSize_eq
  have htcount : s.pages.pageCount ≤ t.pages.pageCount := hst.grows.pageCount_le
  refine hs.ready.tracks.list.of_mixed hst.ready.tracks.list hcap hst.grows.entered_prefix
    hst.grows.nodes_prefix hst.grows.kept_eq ?_ ?_
  · intro id hlt
    have hlt' : id < t.pages.pageCount := Nat.lt_of_lt_of_le hlt htcount
    have hold : (s.pages.view id).length = s.pages.pageSize :=
      PageFile.Sound.length_view hs.ready.tracks.sound hlt
    have hnew : (t.pages.view id).length = t.pages.pageSize :=
      PageFile.Sound.length_view hst.ready.tracks.sound hlt'
    show (s.pages.view id).length = (t.pages.view id).length
    rw [hold, hnew, htsize]
  · exact fun id i hpos hlt => hst.getElem?_of_mixed hs hlen hbyte hpos hlt i

end Mixed

/-- After a commit that fails. Whether its meta page was written does not matter. -/
theorem Filled.poised_rolledBack (hs : s.Poised h spare) (hst : s.Filled t ids spare h g)
    (hw : t.pages.Written f) : (s.rolledBack t f).Poised h spare := by
  have htsize := hst.pageSize_eq
  have hfsize : f.pageSize = s.pages.pageSize := hw.pageSize_eq.trans htsize
  have hdisk := hst.disk_eq
  have hcommitted : t.committedPages = s.pages.pageCount := by
    rw [hst.rest_eq]
    exact hs.committed_eq
  have hcount : min f.pageCount t.committedPages = s.pages.pageCount := by
    rw [hw.pageCount_eq, hcommitted]
    exact Nat.min_eq_right hst.grows.pageCount_le
  have hlen : s.pages.disk.bytes.length ≤ f.disk.bytes.length := by
    rw [← hdisk]
    exact hw.length_le
  have hsound : (f.discardUncommitted t.committedPages).Sound := by
    apply hw.sound.discardUncommitted
    rw [hcommitted, hfsize]
    exact Nat.le_trans hs.length_le hlen
  have hbyte : ∀ j < s.pages.disk.bytes.length, j / s.pages.pageSize ≠ PageId.metaPage →
      f.disk.bytes[j]? = s.pages.disk.bytes[j]? ∨ t.pages.NewByte j f.disk.bytes[j]? := by
    intro j hj hpage
    rw [← hdisk] at hj ⊢
    rw [← htsize] at hpage
    exact hw.byte j hj hpage
  have htracks := hst.tracks_of_mixed hs hlen hbyte
  refine {
    size_valid := ?_
    ready := ⟨⟨hsound, ?_, ?_⟩, hs.ready.room⟩
    clean := PageFile.clean_discardUncommitted _
    watermark_eq := hs.watermark_eq
    committed_eq := hcommitted.trans hcount.symm }
  · show validPageSize f.pageSize = true
    rw [hfsize]
    exact hs.size_valid
  · have hcap : s.free.capacity = FreeNode.capacity s.pages.pageSize :=
      hs.ready.tracks.capacity_eq
    show s.free.capacity = FreeNode.capacity f.pageSize
    rw [hfsize, hcap]
  · show s.free.Tracks (f.discardUncommitted t.committedPages).view
      (min f.pageCount t.committedPages) h [] (t.snapshot ++ spare)
    rw [hst.snapshot_eq, hcount]
    refine htracks.of_pages fun id hpos hlt _ => ?_
    rw [hsound.view_eq_storedPage (PageFile.clean_discardUncommitted _)
      (show id < min f.pageCount t.committedPages by rw [hcount]; exact hlt) (Nat.ne_of_gt hpos)]
    show storedPage f.pageSize f.disk.bytes id = _
    rw [hfsize]

end DurableStore

end PagedTables
