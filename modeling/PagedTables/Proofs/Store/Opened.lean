/-
# Opened files

What is known of a store right after opening, whatever bytes its file holds. Nothing is known of
the pages in which the free list is kept, as opening does not read them.

* `Snapshot.loads_readChain` : following a chain changes no page;
* `DurableStore.readSnapshot_cases` : the checks that a file has passed;
* `DurableStore.opened_of_open` : the state of every store that was opened.
-/
import PagedTables.Proofs.Pages.Effects
import PagedTables.Proofs.Store.Reached

namespace PagedTables

open PagedTables.Action

/-! ## The snapshot -/

namespace Snapshot

variable {f : PageFile}

/-- Following links only loads pages. -/
theorem loads_followChain (capacity fuel : Nat) (id : PageId) :
    Keeps PageFile.Loads (followChain capacity fuel id) f := by
  induction fuel generalizing f id with
  | zero =>
    unfold followChain
    split
    · exact .answer _
    · exact .fail _
  | succ fuel ih =>
    unfold followChain
    split
    · exact .answer _
    · refine (PageFile.loads_read id).bind fun page g _ => ?_
      split
      · exact .fail _
      · exact (ih _).bind fun _ _ _ => .answer _

/-- Reading a snapshot only loads pages. -/
theorem loads_readChain (head : PageId) : Keeps PageFile.Loads (readChain head) f :=
  .read (loads_followChain _ _ head)

end Snapshot

/-! ## The meta page -/

namespace MetaPage

variable {m : MetaPage} {page : Bytes}

/-- The fields of a meta page agree with each other. -/
structure Valid (m : MetaPage) : Prop where
  headSeq_le : m.headSeq.toNat ≤ m.tailSeq.toNat
  headPage_pos : 0 < m.headPage.toNat
  headPage_lt : m.headPage.toNat < m.pageCount.toNat
  tailPage_pos : 0 < m.tailPage.toNat
  tailPage_lt : m.tailPage.toNat < m.pageCount.toNat

/-- A meta page that is decoded is valid. -/
theorem valid_of_decode (h : decode page = .ok m) : m.Valid := by
  obtain ⟨-, -, hcheck⟩ := decode_eq_ok_iff.mp h
  obtain ⟨hseq, ⟨hheadpos, hheadlt⟩, ⟨htailpos, htaillt⟩, -⟩ := check_eq_ok_iff.mp hcheck
  exact ⟨UInt64.le_iff_toNat_le.mp hseq, UInt64.lt_iff_toNat_lt.mp hheadpos,
    UInt64.lt_iff_toNat_lt.mp hheadlt, UInt64.lt_iff_toNat_lt.mp htailpos,
    UInt64.lt_iff_toNat_lt.mp htaillt⟩

end MetaPage

/-! ## Opening -/

namespace DurableStore

variable {s : DurableStore} {size : Nat} {f g : PageFile} {m : MetaPage} {stream : Bytes}
variable {ids : List PageId} {path : String} {options : StoreOptions}

/-- The checks that a file has passed when its snapshot is read. -/
theorem readSnapshot_cases (h : readSnapshot size f = .ok (m, stream, ids) g) :
    m.Valid ∧ m.pageSize.toNat = size ∧ ∃ k, f.Loads k ∧ m.pageCount.toNat ≤ k.pageCount ∧
      (k.truncate m.pageCount.toNat).Loads g := by
  unfold readSnapshot at h
  rw [get_bind] at h
  split at h
  · cases h
  · obtain ⟨page, k, hread, h⟩ := exists_of_bind_ok h
    have hloads := (PageFile.loads_read PageId.metaPage).ok hread
    cases hdecode : MetaPage.decode page with
    | error e =>
      rw [hdecode, ofExcept_bind_error] at h
      cases h
    | ok description =>
      rw [hdecode, ofExcept_bind_ok] at h
      split at h
      · cases h
      · next hsize =>
        simp only [get_bind] at h
        split at h
        · cases h
        · next hcount =>
          rw [modify_bind] at h
          obtain ⟨⟨stream', ids'⟩, l, hchain, h⟩ := exists_of_bind_ok h
          injection h with hres hlg
          obtain ⟨rfl, -⟩ := Prod.mk.inj hres
          subst hlg
          exact ⟨MetaPage.valid_of_decode hdecode, Decidable.not_not.mp hsize, k, hloads,
            Nat.not_lt.mp hcount, (Snapshot.loads_readChain _).ok hchain⟩

/-- What opening makes sure of. -/
structure Opened (s : DurableStore) : Prop where
  size_valid : validPageSize s.pages.pageSize = true
  sound : s.pages.Sound
  clean : s.pages.Clean
  committed_eq : s.committedPages = s.pages.pageCount
  saved : s.dirty = false
  faults_nil : s.pages.disk.faults = []
  free_eq : s.free = FreeList.restore s.free.toFreeSpan s.pages.pageSize
  headSeq_le : s.free.headSeq ≤ s.free.tailSeq
  headPage_pos : 0 < s.free.headPage
  headPage_lt : s.free.headPage < s.pages.pageCount
  tailPage_pos : 0 < s.free.tailPage
  tailPage_lt : s.free.tailPage < s.pages.pageCount
  count_lt : s.pages.pageCount < 2 ^ 64
  seq_lt : s.free.tailSeq < 2 ^ 64

/-- A page size that is read off a file is valid. -/
theorem validPageSize_of_recorded {file : Bytes} (h : recordedPageSize file = .ok size) :
    validPageSize size = true := by
  unfold recordedPageSize at h
  split at h
  · cases h
  · split at h
    · cases h
    · simp only at h
      split at h
      · next hvalid =>
        injection h with hsize
        rwa [hsize] at hvalid
      · cases h

/-- A store that was loaded from a file. -/
theorem opened_of_load {file : Bytes} (h : load path { bytes := file } options = .ok s) :
    s.Opened := by
  unfold load at h
  obtain ⟨size, hrecorded, h⟩ := Except.bind_eq_ok_iff.mp h
  have hvalid := validPageSize_of_recorded hrecorded
  have hpos : 0 < size := by
    have := bounds_of_validPageSize hvalid
    omega
  cases hread : readSnapshot size (PageFile.ofDisk path size { bytes := file }) with
  | error e g =>
    rw [hread] at h
    cases h
  | ok r g =>
    obtain ⟨m, stream, ids⟩ := r
    rw [hread] at h
    obtain ⟨entries, -, h⟩ := Except.bind_eq_ok_iff.mp h
    obtain ⟨hm, -, k, hfk, hcount, hkg⟩ := readSnapshot_cases hread
    have hgsize : g.pageSize = size := by
      rw [hkg.rest_eq, hfk.rest_eq]
      rfl
    have hgcount : g.pageCount = m.pageCount.toNat := by
      rw [hkg.sameCount]
      exact Nat.min_eq_right hcount
    injection h with h
    subst h
    have hevict : g.evictClean.pageSize = size := hgsize
    exact {
      size_valid := hevict ▸ hvalid
      sound := (hkg.sound ((hfk.sound (PageFile.sound_ofDisk hpos)).truncate _)).evictClean
      clean := (hkg.clean ((hfk.clean PageFile.clean_ofDisk).truncate _)).evictClean
      committed_eq := hgcount.symm
      saved := rfl
      faults_nil := by
        show g.disk.faults = []
        rw [hkg.rest_eq, hfk.rest_eq]
        rfl
      free_eq := by rw [hevict]; rfl
      headSeq_le := hm.headSeq_le
      headPage_pos := hm.headPage_pos
      headPage_lt := Nat.lt_of_lt_of_eq hm.headPage_lt hgcount.symm
      tailPage_pos := hm.tailPage_pos
      tailPage_lt := Nat.lt_of_lt_of_eq hm.tailPage_lt hgcount.symm
      count_lt := Nat.lt_of_le_of_lt (Nat.le_of_eq hgcount) m.pageCount.toNat_lt
      seq_lt := m.tailSeq.toNat_lt }

/-- A store in a new file. -/
theorem Settled.opened {c : Checkpoint} {h : FreeHistory} (hs : s.Settled c h)
    (hsaved : s.dirty = false) (hfaults : s.pages.disk.faults = []) : s.Opened := by
  have ht := hs.tracks
  have hhead := ht.node_range ht.headPage_mem
  have htail := ht.node_range ht.tailPage_mem
  have hspan : s.free.toFreeSpan = c.span := by
    rw [hs.free_eq]
    rfl
  exact {
    size_valid := hs.stored.size_valid
    sound := hs.sound
    clean := hs.clean
    committed_eq := hs.committed_eq.trans hs.pageCount_eq.symm
    saved := hsaved
    faults_nil := hfaults
    free_eq := by rw [hspan, ← hs.free_eq]
    headSeq_le := Nat.le_trans ht.headSeq_le ht.watermark_le
    headPage_pos := hhead.1
    headPage_lt := hhead.2
    tailPage_pos := htail.1
    tailPage_lt := htail.2
    count_lt := hs.pageCount_eq ▸ hs.stored.count_lt
    seq_lt := by
      rw [hspan]
      exact hs.stored.seq_lt }

/-- **Every store that was opened**, whatever its file holds. -/
theorem opened_of_open {status : FileStatus} (hopen : «open» path status options = .ok s) :
    s.Opened := by
  have hcheck := check_of_open hopen
  by_cases hbytes : status.bytes = []
  · obtain ⟨t, g, hcreate, hsettled, -, -, -, hsaved, hfaults⟩ := create_ok path hcheck
    rw [create_of_open hbytes hopen] at hcreate
    obtain rfl := Except.ok.inj hcreate
    exact hsettled.opened hsaved hfaults
  · unfold «open» at hopen
    rw [hcheck] at hopen
    simp only [List.isEmpty_eq_false_iff.mpr hbytes, Bool.not_false, if_true] at hopen
    split at hopen
    · cases hopen
    · exact opened_of_load hopen

end DurableStore

end PagedTables
