/-
# Checkpoints

What a file says about the last commit, and what opening the file makes of it.

* `Checkpoint` : entries, snapshot pages, free list and number of pages at a commit;
* `Readable` : the bytes of a file hold what opening reads of a checkpoint;
* `Stored` : they hold all of a checkpoint, its free list included;
* `DurableStore.Settled` : a store whose file holds its checkpoint, without changed pages;
* `DurableStore.open_of_stored` : opening a file that holds a checkpoint leads to it;
* `OpensTo` : a file opens to some entries, whatever the options.
-/
import PagedTables.Proofs.FreeList.Queue
import PagedTables.Proofs.Meta
import PagedTables.Proofs.Pages.Flush
import PagedTables.Proofs.Snapshot.Chain
import PagedTables.Proofs.Snapshot.Stream
import PagedTables.Store.Durable

namespace PagedTables

/-! ## Page sizes -/

section PageSizes

variable {size : Nat}

/-- A node of a valid page size has two slots or more. -/
theorem two_le_capacity (h : validPageSize size = true) : 2 ≤ FreeNode.capacity size := by
  have := bounds_of_validPageSize h
  simp only [FreeNode.capacity, FreeNode.headerSize, FreeNode.slotSize]
  omega

end PageSizes

/-! ## Checkpoints and files -/

/-- What a commit makes durable. -/
structure Checkpoint where
  /-- The entries. -/
  entries : Entries
  /-- The pages of the snapshot, in order. -/
  snapshot : List PageId
  /-- Where the free list starts and ends. -/
  span : FreeSpan
  /-- The items of the free list, in order. -/
  queued : List PageId
  /-- The number of pages. -/
  pageCount : Nat

/-- The meta page that describes a checkpoint. -/
def Checkpoint.metaPage (c : Checkpoint) (size : Nat) : MetaPage where
  pageSize := UInt32.ofNat size
  pageCount := UInt64.ofNat c.pageCount
  dataHead := UInt64.ofNat (c.snapshot.headD PageId.null)
  entryCount := UInt64.ofNat c.entries.size
  headPage := UInt64.ofNat c.span.headPage
  headSeq := UInt64.ofNat c.span.headSeq
  tailPage := UInt64.ofNat c.span.tailPage
  tailSeq := UInt64.ofNat c.span.tailSeq

/-- The state of a store as a checkpoint. -/
def DurableStore.checkpoint (s : DurableStore) : Checkpoint where
  entries := s.index.entries
  snapshot := s.snapshot
  span := s.free.toFreeSpan
  queued := s.free.items s.pages.view
  pageCount := s.pages.pageCount

/-- The bytes of a file hold what opening reads of a checkpoint. That does not include the free
list, apart from where it starts and ends. -/
structure Readable (size : Nat) (file : Bytes) (c : Checkpoint) : Prop where
  size_valid : validPageSize size = true
  size_lt : c.entries.size < 2 ^ 64
  count_lt : c.pageCount < 2 ^ 64
  seq_lt : c.span.tailSeq < 2 ^ 64
  length_le : c.pageCount * size ≤ file.length
  meta_eq : file.take MetaPage.size = (c.metaPage size).sealed
  chain : ∃ payloads, Snapshot.Chain (storedPage size file) (Snapshot.payloadCapacity size)
    c.snapshot payloads ∧ payloads.flatten = Snapshot.encodeEntries c.entries.toList
  snapshot_range : ∀ id ∈ c.snapshot, 0 < id ∧ id < c.pageCount
  snapshot_nodup : c.snapshot.Nodup
  headSeq_le : c.span.headSeq ≤ c.span.tailSeq
  headPage_range : 0 < c.span.headPage ∧ c.span.headPage < c.pageCount
  tailPage_range : 0 < c.span.tailPage ∧ c.span.tailPage < c.pageCount

/-- The bytes of a file hold a checkpoint, whose free list has a history. -/
structure Stored (size : Nat) (file : Bytes) (c : Checkpoint) (h : FreeHistory) : Prop where
  size_valid : validPageSize size = true
  size_lt : c.entries.size < 2 ^ 64
  count_lt : c.pageCount < 2 ^ 64
  seq_lt : c.span.tailSeq < 2 ^ 64
  length_le : c.pageCount * size ≤ file.length
  meta_eq : file.take MetaPage.size = (c.metaPage size).sealed
  chain : ∃ payloads, Snapshot.Chain (storedPage size file) (Snapshot.payloadCapacity size)
    c.snapshot payloads ∧ payloads.flatten = Snapshot.encodeEntries c.entries.toList
  free : (FreeList.restore c.span size).Tracks (storedPage size file) c.pageCount h []
    c.snapshot
  queued_eq : c.queued = (FreeList.restore c.span size).items (storedPage size file)

namespace Stored

variable {size : Nat} {file : Bytes} {c : Checkpoint} {h : FreeHistory}

/-- The free list that is read back is that of the checkpoint. -/
theorem items_eq {page : PageId → Bytes} (hs : Stored size file c h)
    (hpage : ∀ id : Nat, 0 < id → id < c.pageCount → page id = storedPage size file id) :
    (FreeList.restore c.span size).items page = c.queued := by
  have ht := hs.free.of_pages fun id hpos hlt _ => hpage id hpos hlt
  rw [ht.items_eq, hs.queued_eq, hs.free.items_eq]

/-- What is stored can be read. -/
theorem readable (hs : Stored size file c h) : Readable size file c where
  size_valid := hs.size_valid
  size_lt := hs.size_lt
  count_lt := hs.count_lt
  seq_lt := hs.seq_lt
  length_le := hs.length_le
  meta_eq := hs.meta_eq
  chain := hs.chain
  snapshot_range _ hid := hs.free.held_range hid
  snapshot_nodup := hs.free.nodup_held
  headSeq_le := Nat.le_trans hs.free.headSeq_le hs.free.watermark_le
  headPage_range := hs.free.node_range hs.free.headPage_mem
  tailPage_range := hs.free.node_range hs.free.tailPage_mem

end Stored

namespace Readable

variable {size : Nat} {file : Bytes} {c : Checkpoint}

/-- A file with a checkpoint has more pages than the meta page. -/
theorem one_lt_pageCount (hs : Readable size file c) : 1 < c.pageCount :=
  Nat.lt_of_le_of_lt hs.headPage_range.1 hs.headPage_range.2

/-- A file with a checkpoint has its meta page in full. -/
theorem size_le_length (hs : Readable size file c) : size ≤ file.length := by
  have hle := hs.length_le
  have hpos := hs.one_lt_pageCount
  have hmul : 1 * size ≤ c.pageCount * size := Nat.mul_le_mul_right size (Nat.le_of_lt hpos)
  omega

theorem ne_nil (hs : Readable size file c) : file ≠ [] := by
  have hsize := bounds_of_validPageSize hs.size_valid
  have hlen := hs.size_le_length
  rintro rfl
  rw [List.length_nil] at hlen
  omega

/-- The head of the snapshot is a page of the file, or none. -/
theorem headD_lt_pageCount (hs : Readable size file c) :
    c.snapshot.headD PageId.null < c.pageCount := by
  cases hsnap : c.snapshot with
  | nil => exact Nat.lt_trans Nat.one_pos hs.one_lt_pageCount
  | cons id ids => exact (hs.snapshot_range id (by rw [hsnap]; exact List.mem_cons_self)).2

/-- A snapshot has no more pages than the store. -/
theorem length_snapshot_le (hs : Readable size file c) : c.snapshot.length ≤ c.pageCount := by
  have hsub : c.snapshot ⊆ List.range c.pageCount :=
    fun id hid => List.mem_range.mpr (hs.snapshot_range id hid).2
  have hle := (List.subperm_of_subset hs.snapshot_nodup hsub).length_le
  rwa [List.length_range] at hle

/-! ### The meta page -/

theorem toNat_pageSize (hs : Readable size file c) : (c.metaPage size).pageSize.toNat = size := by
  have hsize := bounds_of_validPageSize hs.size_valid
  exact UInt32.toNat_ofNat_of_lt' (by rw [UInt32.size]; omega)

theorem toNat_pageCount (hs : Readable size file c) :
    (c.metaPage size).pageCount.toNat = c.pageCount :=
  UInt64.toNat_ofNat_of_lt' hs.count_lt

theorem toNat_entryCount (hs : Readable size file c) :
    (c.metaPage size).entryCount.toNat = c.entries.size :=
  UInt64.toNat_ofNat_of_lt' hs.size_lt

theorem toNat_dataHead (hs : Readable size file c) :
    (c.metaPage size).dataHead.toNat = c.snapshot.headD PageId.null :=
  UInt64.toNat_ofNat_of_lt' (Nat.lt_trans hs.headD_lt_pageCount hs.count_lt)

/-- The meta page of a stored checkpoint passes every check. -/
theorem check_metaPage (hs : Readable size file c) : (c.metaPage size).check = .ok () := by
  have hhead := hs.headPage_range
  have htail := hs.tailPage_range
  have hcount := hs.count_lt
  have hseq := hs.headSeq_le
  have hdata := hs.headD_lt_pageCount
  have hlt : ∀ {a b : Nat}, a < b → b < 2 ^ 64 → UInt64.ofNat a < UInt64.ofNat b := by
    intro a b hab hb
    rw [UInt64.lt_iff_toNat_lt, UInt64.toNat_ofNat', UInt64.toNat_ofNat', Nat.mod_eq_of_lt hb,
      Nat.mod_eq_of_lt (Nat.lt_trans hab hb)]
    exact hab
  refine MetaPage.check_eq_ok_iff.mpr ⟨?_, ⟨?_, ?_⟩, ⟨?_, ?_⟩, ?_⟩
  · have hlast := hs.seq_lt
    show UInt64.ofNat c.span.headSeq ≤ UInt64.ofNat c.span.tailSeq
    rw [UInt64.le_iff_toNat_le, UInt64.toNat_ofNat', UInt64.toNat_ofNat',
      Nat.mod_eq_of_lt hlast, Nat.mod_eq_of_lt (Nat.lt_of_le_of_lt hseq hlast)]
    exact hseq
  · exact hlt hhead.1 (Nat.lt_trans hhead.2 hcount)
  · exact hlt hhead.2 hcount
  · exact hlt htail.1 (Nat.lt_trans htail.2 hcount)
  · exact hlt htail.2 hcount
  · exact hlt hdata hcount

/-- Page 0 of the file is read as the meta page. -/
theorem decode_metaPage (hs : Readable size file c) :
    MetaPage.decode (storedPage size file PageId.metaPage) = .ok (c.metaPage size) := by
  have hsize := bounds_of_validPageSize hs.size_valid
  apply MetaPage.decode_of_take _ _ hs.check_metaPage
  · rw [length_storedPage_of_lt (show PageId.metaPage < c.pageCount from
      Nat.lt_trans Nat.one_pos hs.one_lt_pageCount) hs.length_le, MetaPage.size]
    omega
  · rw [storedPage, PageId.metaPage, Nat.zero_mul, Bytes.slice, List.drop_zero,
      List.take_take, Nat.min_eq_left (by rw [MetaPage.size]; omega)]
    exact hs.meta_eq

/-- The meta page records the whole free list. -/
theorem span_metaPage (hs : Readable size file c) :
    (⟨(c.metaPage size).headPage.toNat, (c.metaPage size).headSeq.toNat,
      (c.metaPage size).tailPage.toNat, (c.metaPage size).tailSeq.toNat⟩ : FreeSpan) =
      c.span := by
  have hhead := hs.headPage_range
  have htail := hs.tailPage_range
  have hseq := hs.headSeq_le
  show (⟨(UInt64.ofNat c.span.headPage).toNat, (UInt64.ofNat c.span.headSeq).toNat,
    (UInt64.ofNat c.span.tailPage).toNat, (UInt64.ofNat c.span.tailSeq).toNat⟩ : FreeSpan) = c.span
  rw [UInt64.toNat_ofNat_of_lt' (Nat.lt_trans hhead.2 hs.count_lt),
    UInt64.toNat_ofNat_of_lt' (Nat.lt_of_le_of_lt hseq hs.seq_lt),
    UInt64.toNat_ofNat_of_lt' (Nat.lt_trans htail.2 hs.count_lt),
    UInt64.toNat_ofNat_of_lt' hs.seq_lt]

end Readable

/-! ## Opening -/

namespace PageFile

variable {size : Nat} {disk : Disk} {path : String}

/-- A file that is opened is sound. -/
theorem sound_ofDisk (hsize : 0 < size) : (ofDisk path size disk).Sound where
  cached_lt := nofun
  length_cached := nofun
  stored_le := by
    intro id hlt _
    have hlt' : id < disk.bytes.length / size := hlt
    exact (Nat.le_div_iff_mul_le hsize).mp hlt'
  clean_eq := nofun

/-- A file that is opened has no changed pages. -/
theorem clean_ofDisk : (ofDisk path size disk).Clean :=
  nofun

end PageFile

namespace DurableStore

variable {size : Nat} {file : Bytes} {c : Checkpoint} {h : FreeHistory}

/-- Reading the snapshot of a file. -/
theorem readSnapshot_ok (path : String) {disk : Disk} (hs : Readable size disk.bytes c) :
    ∃ g, readSnapshot size (PageFile.ofDisk path size disk) =
        .ok (c.metaPage size, Snapshot.encodeEntries c.entries.toList, c.snapshot) g ∧
      g.Sound ∧ g.Clean ∧ g.path = path ∧ g.pageSize = size ∧ g.pageCount = c.pageCount ∧
      g.disk = disk := by
  have hsize := bounds_of_validPageSize hs.size_valid
  have hpages := hs.one_lt_pageCount
  have hpresent : c.pageCount ≤ disk.bytes.length / size :=
    (Nat.le_div_iff_mul_le (by omega)).mpr hs.length_le
  have hsound : (PageFile.ofDisk path size disk).Sound := PageFile.sound_ofDisk (by omega)
  have hzero : (PageFile.ofDisk path size disk).pageCount = disk.bytes.length / size := rfl
  -- the meta page
  have hmetalt : PageId.metaPage < PageStore.pageCount (PageFile.ofDisk path size disk) := by
    show 0 < disk.bytes.length / size
    omega
  obtain ⟨f, hread, hbec, hclean⟩ := LawfulPageStore.read_ok hsound hmetalt
  have hview : PageView.page (PageFile.ofDisk path size disk) PageId.metaPage =
      storedPage size disk.bytes PageId.metaPage :=
    PageFile.view_uncached hmetalt rfl
  have hclean' : f.Clean := hclean PageFile.clean_ofDisk
  have hf : f.pageCount = disk.bytes.length / size := hbec.pageCount_eq
  -- the pages of the checkpoint
  have hsound' : (f.truncate c.pageCount).Sound := hbec.sound.truncate c.pageCount
  have hg : (f.truncate c.pageCount).pageCount = c.pageCount := by
    show min f.pageCount c.pageCount = _
    omega
  have hgsize : (f.truncate c.pageCount).pageSize = size := hbec.pageSize_eq
  have hdisk : (f.truncate c.pageCount).disk = disk := congrArg Prod.snd hbec.rest_eq
  have hpath : (f.truncate c.pageCount).path = path := congrArg Prod.fst hbec.rest_eq
  have hstored : ∀ id : Nat, 0 < id → id < c.pageCount →
      (f.truncate c.pageCount).view id = storedPage size disk.bytes id := by
    intro id hpos hlt
    rw [hsound'.view_eq_storedPage (hclean'.truncate _) (by rw [hg]; exact hlt)
      (Nat.ne_of_gt hpos), hgsize, hdisk]
  -- the chain
  obtain ⟨payloads, hchain, hstream⟩ := hs.chain
  have hrange : ∀ id ∈ c.snapshot, id ≠ PageId.null ∧ id < c.pageCount := by
    intro id hid
    have hr := hs.snapshot_range id hid
    exact ⟨Nat.ne_of_gt hr.1, hr.2⟩
  obtain ⟨g, hfollow, hbec', hclean''⟩ := Snapshot.followChain_ok hsound'
    (hchain.of_pages fun id hid => hstored id (hs.snapshot_range id hid).1 (hrange id hid).2)
    (by
      intro id hid
      rw [show PageStore.pageCount (f.truncate c.pageCount) = c.pageCount from hg]
      exact hrange id hid) hs.length_snapshot_le
  refine ⟨g, ?_, hbec'.sound, hclean'' (hclean'.truncate _), ?_, hbec'.pageSize_eq.trans hgsize,
    hbec'.pageCount_eq.trans hg, ?_⟩
  · unfold readSnapshot
    rw [Action.get_bind, if_neg (by rw [hzero]; omega)]
    show (PageStore.read PageId.metaPage >>= fun page =>
      Action.ofExcept (MetaPage.decode page) >>= fun description => _) _ = _
    rw [Action.bind_ok hread, hview, hs.decode_metaPage, Action.ofExcept_bind_ok]
    simp only [hs.toNat_pageSize, hs.toNat_pageCount]
    rw [if_neg (fun hne => hne rfl), Action.get_bind, if_neg (by omega), Action.modify_bind]
    show (Snapshot.readChain (c.metaPage size).dataHead.toNat >>= fun r => _) _ = _
    have hrun : Snapshot.readChain (c.snapshot.headD PageId.null) (f.truncate c.pageCount) =
        .ok (Snapshot.encodeEntries c.entries.toList, c.snapshot) g := by
      unfold Snapshot.readChain
      rw [Action.get_bind, show PageStore.pageSize (f.truncate c.pageCount) = size from hgsize,
        show PageStore.pageCount (f.truncate c.pageCount) = c.pageCount from hg, hfollow, hstream]
    rw [hs.toNat_dataHead, Action.bind_ok hrun]
    rfl
  · exact (congrArg Prod.fst hbec'.rest_eq).trans hpath
  · exact (congrArg Prod.snd hbec'.rest_eq).trans hdisk

/-- The file of a store holds a checkpoint, and nothing was changed since, except perhaps the
entries in memory. -/
structure Settled (s : DurableStore) (c : Checkpoint) (h : FreeHistory) : Prop where
  stored : Stored s.pages.pageSize s.pages.disk.bytes c h
  sound : s.pages.Sound
  clean : s.pages.Clean
  free_eq : s.free = FreeList.restore c.span s.pages.pageSize
  snapshot_eq : s.snapshot = c.snapshot
  pageCount_eq : s.pages.pageCount = c.pageCount
  committed_eq : s.committedPages = c.pageCount

/-- Every page but the meta page is shown as the file holds it. -/
theorem Settled.view_eq {s : DurableStore} (hs : s.Settled c h) {id : Nat} (hpos : 0 < id)
    (hlt : id < c.pageCount) :
    s.pages.view id = storedPage s.pages.pageSize s.pages.disk.bytes id :=
  hs.sound.view_eq_storedPage hs.clean (by rw [hs.pageCount_eq]; exact hlt) (Nat.ne_of_gt hpos)

/-- The free list of a settled store, on the pages that the store shows. -/
theorem Settled.tracks {s : DurableStore} (hs : s.Settled c h) :
    s.free.Tracks s.pages.view s.pages.pageCount h [] s.snapshot := by
  rw [hs.free_eq, hs.pageCount_eq, hs.snapshot_eq]
  exact hs.stored.free.of_pages fun id hpos hlt _ => hs.view_eq hpos hlt

/-- A settled store with the entries of its checkpoint is at the checkpoint. -/
theorem Settled.checkpoint_eq {s : DurableStore} (hs : s.Settled c h)
    (hentries : s.index.entries = c.entries) : s.checkpoint = c := by
  have hitems := hs.stored.items_eq fun id hpos hlt => hs.view_eq hpos hlt
  unfold checkpoint
  rw [hentries, hs.snapshot_eq, hs.free_eq, hs.pageCount_eq, hitems]
  rfl

/-- Loading entries one by one inserts them, and leaves the limits. -/
theorem foldl_load (entries : List Entry) (m : MemoryStore) :
    entries.foldl (fun m e => m.load e.1 e.2) m =
      { m with entries := entries.foldl (fun n e => n.insert e.1 e.2) m.entries } := by
  induction entries generalizing m with
  | nil => rfl
  | cons e rest ih =>
    rw [List.foldl_cons, ih, List.foldl_cons]
    rfl

/-- Loading a file once its snapshot is read. -/
theorem load_of_readSnapshot {path : String} {disk : Disk} {description : MetaPage}
    {stream : Bytes} {ids : List PageId} {pages : PageFile} (options : StoreOptions)
    (hsize : recordedPageSize disk.bytes = .ok size)
    (hread : readSnapshot size (PageFile.ofDisk path size disk) =
      .ok (description, stream, ids) pages) :
    load path disk options = (do
      let entries ← Snapshot.decodeEntries stream description.entryCount.toNat
      let options := { options with pageSize := size }
      return {
        options
        pages := pages.evictClean
        index := entries.foldl (fun m e => m.load e.1 e.2) (MemoryStore.ofOptions options)
        free := FreeList.restore
          ⟨description.headPage.toNat, description.headSeq.toNat,
            description.tailPage.toNat, description.tailSeq.toNat⟩ size
        snapshot := ids
        committedPages := description.pageCount.toNat
        dirty := false }) := by
  unfold load
  rw [hsize, Action.except_ok_bind, hread]

/-- The store that is loaded from a file with a checkpoint and the entries of its stream. -/
def loaded (c : Checkpoint) (pages : PageFile) (options : StoreOptions) (entries : List Entry) :
    DurableStore where
  options := { options with pageSize := pages.pageSize }
  pages := pages.evictClean
  index := entries.foldl (fun m e => m.load e.1 e.2)
    (MemoryStore.ofOptions { options with pageSize := pages.pageSize })
  free := FreeList.restore c.span pages.pageSize
  snapshot := c.snapshot
  committedPages := c.pageCount
  dirty := false

/-- Loading a readable file fails at most on the entries. -/
theorem load_of_readable (path : String) (options : StoreOptions) (hs : Readable size file c) :
    ∃ g : PageFile, load path { bytes := file } options =
        (Snapshot.decodeEntries (Snapshot.encodeEntries c.entries.toList) c.entries.size).map
          (loaded c g options) ∧
      g.Sound ∧ g.Clean ∧ g.pageSize = size ∧ g.pageCount = c.pageCount ∧
      g.disk = { bytes := file } := by
  have hsize := bounds_of_validPageSize hs.size_valid
  have hread : Readable size ({ bytes := file } : Disk).bytes c := hs
  obtain ⟨g, hread, hsound, hclean, -, hgsize, hcount, hdisk⟩ := readSnapshot_ok path hread
  have hrecorded : recordedPageSize file = .ok size := by
    have hlen := hs.size_le_length
    have hfile := MetaPage.recordedPageSize_of_take
      (show MetaPage.size ≤ file.length by rw [MetaPage.size]; omega) hs.meta_eq
      (by rw [hs.toNat_pageSize]; exact hs.size_valid)
    rw [hfile, hs.toNat_pageSize]
  refine ⟨g, ?_, hsound, hclean, hgsize, hcount, hdisk⟩
  have hrecorded' : recordedPageSize ({ bytes := file } : Disk).bytes = .ok size := hrecorded
  rw [load_of_readSnapshot options hrecorded' hread, hs.toNat_entryCount, hs.span_metaPage,
    hs.toNat_pageCount]
  unfold loaded
  rw [hgsize]
  rfl

/-- What is loaded from a file with a checkpoint is settled at it. -/
theorem settled_loaded {g : PageFile} (options : StoreOptions) (entries : List Entry)
    (hs : Stored size file c h) (hsound : g.Sound) (hclean : g.Clean) (hsize : g.pageSize = size)
    (hcount : g.pageCount = c.pageCount) (hdisk : g.disk = { bytes := file }) :
    (loaded c g options entries).Settled c h := by
  have hsize' : g.evictClean.pageSize = size := hsize
  have hdisk' : g.evictClean.disk = { bytes := file } := hdisk
  refine ⟨?_, hsound.evictClean, hclean.evictClean, rfl, rfl, hcount, rfl⟩
  show Stored g.evictClean.pageSize g.evictClean.disk.bytes c h
  rw [hsize', hdisk']
  exact hs

/-- Opening a file with bytes is loading it. -/
theorem open_eq_load (path : String) {options : StoreOptions} (hvalid : options.check = .ok ())
    (hne : file ≠ []) :
    «open» path (.present file) options = load path { bytes := file } options := by
  have hfile : (!(FileStatus.present file).bytes.isEmpty) = true := by
    rw [Bool.not_eq_true', List.isEmpty_eq_false_iff]
    exact hne
  unfold «open»
  rw [hvalid]
  show (if FileStatus.present file = .unreadable then _ else _) = _
  rw [if_neg nofun, if_pos hfile]
  rfl

/-- Whatever store a file with a checkpoint opens to, it is settled at the checkpoint. -/
theorem settled_of_open {path : String} {options : StoreOptions} {t : DurableStore}
    (hvalid : options.check = .ok ()) (hs : Stored size file c h)
    (hopen : «open» path (.present file) options = .ok t) :
    t.Settled c h ∧ t.pages.pageSize = size := by
  obtain ⟨g, hload, hsound, hclean, hgsize, hcount, hdisk⟩ :=
    load_of_readable path options hs.readable
  rw [open_eq_load path hvalid hs.readable.ne_nil, hload] at hopen
  cases hdecode : Snapshot.decodeEntries (Snapshot.encodeEntries c.entries.toList)
      c.entries.size with
  | error e =>
    rw [hdecode] at hopen
    cases hopen
  | ok entries =>
    rw [hdecode] at hopen
    obtain rfl := Except.ok.inj hopen
    exact ⟨settled_loaded options entries hs hsound hclean hgsize hcount hdisk, hgsize⟩

/-- **Opening a readable file leads to its entries**, whatever the options, if the lengths of its
keys and values can be written. -/
theorem open_of_readable (path : String) {options : StoreOptions}
    (hvalid : options.check = .ok ()) (hs : Readable size file c)
    (hfits : ∀ e ∈ c.entries.toList, Snapshot.Fits e) :
    ∃ g : PageFile, «open» path (.present file) options =
        .ok (loaded c g options c.entries.toList) ∧
      (loaded c g options c.entries.toList).index =
        ⟨c.entries, options.maxKeySize, options.maxValueSize⟩ ∧
      g.Sound ∧ g.Clean ∧ g.pageSize = size ∧ g.pageCount = c.pageCount ∧
      g.disk = { bytes := file } := by
  obtain ⟨g, hload, hg⟩ := load_of_readable path options hs
  refine ⟨g, ?_, ?_, hg⟩
  · rw [open_eq_load path hvalid hs.ne_nil, hload,
      Snapshot.decodeEntries_encodeEntries c.entries hfits]
    rfl
  · show c.entries.toList.foldl (fun (m : MemoryStore) e => m.load e.1 e.2) _ = _
    rw [foldl_load]
    show (⟨c.entries.toList.foldl (fun n e => n.insert e.1 e.2) ∅, _, _⟩ : MemoryStore) = _
    rw [OrderedMap.foldl_insert]
    rfl

/-- **Opening a file that holds a checkpoint leads to it**, whatever the options, if the lengths
of its keys and values can be written. -/
theorem open_of_stored (path : String) {options : StoreOptions} (hvalid : options.check = .ok ())
    (hs : Stored size file c h) (hfits : ∀ e ∈ c.entries.toList, Snapshot.Fits e) :
    ∃ t, «open» path (.present file) options = .ok t ∧ t.Settled c h ∧ t.checkpoint = c ∧
      t.index = ⟨c.entries, options.maxKeySize, options.maxValueSize⟩ ∧ t.dirty = false ∧
      t.options = { options with pageSize := size } ∧ t.pages.disk = { bytes := file } := by
  obtain ⟨g, hopen, hindex, hsound, hclean, hgsize, hcount, hdisk⟩ :=
    open_of_readable path hvalid hs.readable hfits
  have hsettled := settled_loaded options c.entries.toList hs hsound hclean hgsize hcount hdisk
  refine ⟨loaded c g options c.entries.toList, hopen, hsettled,
    hsettled.checkpoint_eq (by rw [hindex]), hindex, rfl, ?_, hdisk⟩
  unfold loaded
  rw [hgsize]

end DurableStore

/-- The file opens to the entries under all valid options. -/
def OpensTo (file : Bytes) (entries : Entries) : Prop :=
  ∀ (path : String) (options : StoreOptions), options.check = .ok () →
    ∃ t, DurableStore.open path (.present file) options = .ok t ∧
      t.index = ⟨entries, options.maxKeySize, options.maxValueSize⟩

/-- A readable file opens to its entries, if their lengths can be written. -/
theorem Readable.opensTo {size : Nat} {file : Bytes} {c : Checkpoint}
    (hs : Readable size file c) (hfits : ∀ e ∈ c.entries.toList, Snapshot.Fits e) :
    OpensTo file c.entries := by
  intro path options hvalid
  obtain ⟨g, hopen, hindex, -⟩ := DurableStore.open_of_readable path hvalid hs hfits
  exact ⟨_, hopen, hindex⟩

end PagedTables
