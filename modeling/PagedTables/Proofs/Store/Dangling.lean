/-
# Files with a dangling link

What opening reports of a file that holds any bytes at all. Everything that is wrong with a file
is reported as damage, except for one thing: a page of the snapshot may hold a link to a page
that the file does not have. This is reported as a page that was not found, which is not taken
for damage, while a first page outside the file is.

* `DurableStore.Dangling` : the chain of the snapshot leaves the file;
* `DurableStore.open_classified` : every file opens, is reported as damaged, or has a dangling
  link;
* `DurableStore.unclassified_of_strayLink` : a file whose damage is not reported as such.
-/
import PagedTables.Proofs.Damage
import PagedTables.Proofs.Snapshot.Format
import PagedTables.Proofs.Snapshot.Walk
import PagedTables.Proofs.Store.Opened
import PagedTables.Table.Opening

namespace PagedTables

open PagedTables.Action

namespace Snapshot

theorem reportsDamage_decodeEntries (stream : Bytes) (expected : Nat) :
    ReportsDamage (decodeEntries stream expected) := by
  intro e h
  obtain ⟨damage, rfl⟩ := exists_damage_of_decodeEntries h
  rfl

end Snapshot

/-! ## Opening -/

namespace DurableStore

variable {path : String} {options : StoreOptions} {file : Bytes} {size : Nat} {m : MetaPage}
variable {id : PageId}

/-- A file has a meta page that is in order, and all the pages that this covers. -/
structure Described (size : Nat) (file : Bytes) (m : MetaPage) : Prop where
  decode_eq : MetaPage.decode (storedPage size file PageId.metaPage) = .ok m
  pageSize_eq : m.pageSize.toNat = size
  pageCount_le : m.pageCount.toNat ≤ file.length / size

/-- The links of the snapshot in a file lead to a page that the file does not have. -/
def Dangling (file : Bytes) (id : PageId) : Prop :=
  ∃ size m ids, recordedPageSize file = .ok size ∧ Described size file m ∧
    Snapshot.Leads (storedPage size file) (Snapshot.payloadCapacity size) m.pageCount.toNat
      m.dataHead.toNat ids id ∧
    id ≠ PageId.null ∧ m.pageCount.toNat ≤ id

/-- A file has one meta page only. -/
theorem Described.unique {m' : MetaPage} (h : Described size file m)
    (h' : Described size file m') : m = m' := by
  have hdecode := h.decode_eq.symm.trans h'.decode_eq
  injection hdecode

/-- Reading a snapshot reports a meta page that is not in order, or else follows the chain. -/
theorem readSnapshot_head (path : String) (file : Bytes) (hsize : 0 < size) :
    (∃ e g, readSnapshot size (PageFile.ofDisk path size { bytes := file }) = .error e g ∧
      e.isDamage = true ∧ ∀ m, ¬Described size file m) ∨
    ∃ m k, Described size file m ∧ k.Sound ∧ k.pageSize = size ∧
      k.pageCount = m.pageCount.toNat ∧
      (∀ id, id ≠ PageId.null → id < m.pageCount.toNat → k.view id = storedPage size file id) ∧
      readSnapshot size (PageFile.ofDisk path size { bytes := file }) =
        (Snapshot.readChain m.dataHead.toNat >>= fun r => pure (m, r.1, r.2)) k := by
  have hsound : (PageFile.ofDisk path size { bytes := file }).Sound := PageFile.sound_ofDisk hsize
  unfold readSnapshot
  rw [get_bind]
  by_cases hzero : (PageFile.ofDisk path size { bytes := file }).pageCount = 0
  · rw [if_pos hzero]
    refine .inl ⟨_, _, rfl, rfl, fun m hm => ?_⟩
    have hle : m.pageCount.toNat ≤ 0 := hm.pageCount_le.trans_eq hzero
    exact absurd (MetaPage.valid_of_decode hm.decode_eq).headPage_lt (by omega)
  · rw [if_neg hzero]
    have hlt : PageId.metaPage <
        PageStore.pageCount (PageFile.ofDisk path size { bytes := file }) :=
      Nat.pos_of_ne_zero hzero
    obtain ⟨g, hread, hbec, hclean⟩ := LawfulPageStore.read_ok hsound hlt
    have hcount : g.pageCount = file.length / size := hbec.pageCount_eq
    have hview : PageView.page (PageFile.ofDisk path size { bytes := file }) PageId.metaPage =
        storedPage size file PageId.metaPage :=
      PageFile.view_uncached hlt rfl
    have hpage : PageFile.read PageId.metaPage (PageFile.ofDisk path size { bytes := file }) =
        .ok (storedPage size file PageId.metaPage) g :=
      hview ▸ hread
    simp only [bind_ok hpage]
    cases hdecode : MetaPage.decode (storedPage size file PageId.metaPage) with
    | error e =>
      refine .inl ⟨e, g, rfl, MetaPage.reportsDamage_decode _ e hdecode, fun m hm => ?_⟩
      rw [hm.decode_eq] at hdecode
      cases hdecode
    | ok m =>
      simp only [ofExcept_bind_ok]
      by_cases hpagesize : m.pageSize.toNat = size
      · rw [if_neg (not_not.mpr hpagesize)]
        simp only [get_bind, hcount]
        by_cases hpages : m.pageCount.toNat ≤ file.length / size
        · rw [if_neg (Nat.not_lt.mpr hpages)]
          have hkcount : (g.truncate m.pageCount.toNat).pageCount = m.pageCount.toNat := by
            rw [PageFile.truncate, hcount]
            exact Nat.min_eq_right hpages
          have hgsize : g.pageSize = size := hbec.pageSize_eq
          have hdisk : g.disk = { bytes := file } := congrArg Prod.snd hbec.rest_eq
          refine .inr ⟨m, g.truncate m.pageCount.toNat, ⟨hdecode, hpagesize, hpages⟩,
            hbec.sound.truncate _, hgsize, hkcount, fun id hnull hid => ?_, rfl⟩
          rw [(hbec.sound.truncate _).view_eq_storedPage
            ((hclean PageFile.clean_ofDisk).truncate _) (by rwa [hkcount]) hnull]
          show storedPage g.pageSize g.disk.bytes id = _
          rw [hgsize, hdisk]
        · rw [if_pos (Nat.not_le.mp hpages)]
          refine .inl ⟨_, _, rfl, rfl, fun m' hm => ?_⟩
          rw [hm.decode_eq] at hdecode
          injection hdecode with hm'
          exact hpages (hm' ▸ hm.pageCount_le)
      · rw [if_pos hpagesize]
        refine .inl ⟨_, _, rfl, rfl, fun m' hm => ?_⟩
        rw [hm.decode_eq] at hdecode
        injection hdecode with hm'
        exact hpagesize (hm' ▸ hm.pageSize_eq)

/-- Loading a file fails with damage, or because of a dangling link. -/
theorem load_error {e : StoreError} (h : load path { bytes := file } options = .error e) :
    e.isDamage = true ∨ ∃ id, e = .pageNotFound id ∧ Dangling file id := by
  unfold load at h
  rcases Except.bind_eq_error_iff.mp h with hrecorded | ⟨size, hrecorded, h⟩
  · exact .inl (reportsDamage_recordedPageSize _ e hrecorded)
  · have hbounds := bounds_of_validPageSize (validPageSize_of_recorded hrecorded)
    have hpos : 0 < size := by omega
    rcases readSnapshot_head path file hpos with
      ⟨e', g, hread, hdamage, -⟩ | ⟨m, k, hm, hk, hksize, hkcount, hview, hread⟩
    · rw [hread] at h
      injection h with he
      exact .inl (he ▸ hdamage)
    · rw [hread] at h
      have hending := Snapshot.readChain_ending (s := k) hk m.dataHead.toNat
      generalize hchain : Snapshot.readChain m.dataHead.toNat k = r at hending
      cases hending with
      | whole =>
        rw [bind_ok hchain] at h
        rcases Except.bind_eq_error_iff.mp h with hentries | ⟨entries, -, h⟩
        · exact .inl (Snapshot.reportsDamage_decodeEntries _ _ e hentries)
        · cases h
      | cycle | oversized =>
        rw [bind_error hchain] at h
        injection h with he
        exact .inl (he ▸ rfl)
      | @missing ids id _ hleads _ hnull hle =>
        rw [bind_error hchain] at h
        injection h with he
        have hleads' : Snapshot.Leads k.view (Snapshot.payloadCapacity size) m.pageCount.toNat
            m.dataHead.toNat ids id :=
          hksize ▸ hkcount ▸ hleads
        have hle' : m.pageCount.toNat ≤ id := hkcount ▸ hle
        refine .inr ⟨id, he.symm, size, m, ids, hrecorded, hm, ?_, hnull, hle'⟩
        exact hleads'.of_pages fun x hx hlt => (hview x hx hlt).symm

/-- A file with a dangling link is not loaded. -/
theorem load_of_dangling (h : Dangling file id) :
    load path { bytes := file } options = .error (.pageNotFound id) := by
  obtain ⟨size, m, ids, hrecorded, hm, hleads, hnull, hid⟩ := h
  have hbounds := bounds_of_validPageSize (validPageSize_of_recorded hrecorded)
  have hsize : 0 < size := by omega
  rcases readSnapshot_head path file hsize with
    ⟨e, g, -, -, hno⟩ | ⟨m', k, hm', hk, hksize, hkcount, hview, hread⟩
  · exact absurd hm (hno m)
  · obtain rfl := hm.unique hm'
    have hway := hleads.of_pages hview
    rw [← hkcount, ← hksize] at hway
    rw [← hkcount] at hid
    have hpos : 0 < k.pageCount :=
      Nat.zero_lt_of_lt (hkcount ▸ (MetaPage.valid_of_decode hm.decode_eq).headPage_lt)
    have hle := hway.length_le (Snapshot.not_readable_of_le hid)
    obtain ⟨g, hrun⟩ := Snapshot.followChain_of_leads (s := k) hk hway hnull hid
      (show _ < k.pageCount by omega)
    have hchain : Snapshot.readChain m.dataHead.toNat k = .error (.pageNotFound id) g := hrun
    rw [load, hrecorded, except_ok_bind, hread, bind_error hchain]
    rfl

theorem open_present (hcheck : options.check = .ok ()) (hfile : file ≠ []) :
    «open» path (.present file) options = load path { bytes := file } options := by
  have hempty : file.isEmpty = false := List.isEmpty_eq_false_iff.mpr hfile
  unfold «open»
  rw [hcheck]
  simp only [FileStatus.bytes, hempty]
  rfl

/-- **How opening a file ends.** The error is one of damage, unless a link of the snapshot leads
out of the file; then this link is what is reported, as a page that was not found. -/
theorem open_classified (path : String) (hcheck : options.check = .ok ()) (hfile : file ≠ []) :
    (∀ id, «open» path (.present file) options = .error (.pageNotFound id) ↔ Dangling file id) ∧
    ∀ e, «open» path (.present file) options = .error e → (∀ id, ¬Dangling file id) →
      e.isDamage = true ∧ (DatabaseError.store e).category = .corruption := by
  rw [open_present hcheck hfile]
  constructor
  · refine fun id => ⟨fun h => ?_, load_of_dangling⟩
    rcases load_error h with hdamage | ⟨id', hid, hdangling⟩
    · cases hdamage
    · injection hid with hid
      exact hid ▸ hdangling
  · intro e h hno
    rcases load_error h with hdamage | ⟨id, -, hdangling⟩
    · exact ⟨hdamage, if_pos hdamage⟩
    · exact absurd hdangling (hno id)

/-! ## A file with a stray link -/

/-- A file with one entry, the page of which has a link to page 9. -/
def strayLink : Bytes :=
  match «open» "data" .absent { pageSize := 128 } with
  | .error _ => []
  | .ok s =>
    (((StoreCall.update [1] [2] .upsert).run.outcome s).2.pages.disk.bytes).overwrite 256 [9]

set_option maxRecDepth 2048 in
/-- Its last page is the one with the link. Cut off before that page, the file is damaged. -/
theorem open_classified_of_strayLink : Dangling strayLink 9 ∧ ∃ e,
    «open» "data" (.present (strayLink.take 256)) { pageSize := 128 } = .error e ∧
    e.isDamage = true ∧ (DatabaseError.store e).category = .corruption := by
  have hcheck : StoreOptions.check { pageSize := 128 } = .ok () := by decide
  have hstray : Except.fails («open» "data" (.present strayLink) { pageSize := 128 })
      (fun e => decide (e = .pageNotFound 9)) = true := by
    decide +kernel
  have hcut : Except.fails («open» "data" (.present (strayLink.take 256)) { pageSize := 128 })
      (fun e => decide (e = .damaged (.missingPages 3 2))) = true := by
    decide +kernel
  obtain ⟨e, hopen, he⟩ := Except.exists_of_fails hstray
  obtain ⟨e', hopen', he'⟩ := Except.exists_of_fails hcut
  rw [of_decide_eq_true he] at hopen
  rw [of_decide_eq_true he'] at hopen'
  have hcutClassified := open_classified "data" hcheck
    (show strayLink.take 256 ≠ [] by decide +kernel)
  refine ⟨((open_classified "data" hcheck (by decide +kernel)).1 9).mp hopen, _, hopen',
    hcutClassified.2 _ hopen' fun id hid => ?_⟩
  rw [(hcutClassified.1 id).mpr hid] at hopen'
  cases hopen'

set_option maxRecDepth 2048 in
/-- The damage of this file is not reported as such. -/
theorem unclassified_of_strayLink : ∃ e,
    Database.open { path := "data", store := { pageSize := 128 } } (.present strayLink) =
      .error (.store e) ∧
    «open» "data" (.present strayLink) { pageSize := 128 } = .error e ∧
    e.isDamage = false ∧ (DatabaseError.store e).category = .storage := by
  have hrun : Except.fails («open» "data" (.present strayLink) { pageSize := 128 })
      (fun e => decide (e = .pageNotFound 9)) = true := by
    decide +kernel
  obtain ⟨e, hopen, he⟩ := Except.exists_of_fails hrun
  obtain rfl := of_decide_eq_true he
  refine ⟨_, ?_, hopen, rfl, rfl⟩
  have hcheck : DatabaseOptions.check { path := "data", store := { pageSize := 128 } } =
      .ok () := by
    decide
  rw [Database.open, hcheck]
  simp only [hopen]

end DurableStore

end PagedTables
