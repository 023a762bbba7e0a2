/-
# Files with a damaged free list

Opening a file checks its meta page and its snapshot, not the pages in which the free list is
kept. So a store can be opened whose list names a page twice, or a page of the snapshot. Such a
page is overwritten when it is handed out, and a commit may succeed that cannot be read back.
Where the list is intact, a commit that succeeds can be read back.

* `DurableStore.Filled.readable` : what is written can be read, whatever the spare pages are;
* `DurableStore.Continues.commit_readable` : commits to a file whose list was intact when it
  was opened;
* `DurableStore.unreadable_of_nodeFreed` : a commit to a file whose list names its own node.
-/
import PagedTables.Proofs.FreeList.Intact
import PagedTables.Proofs.Store.Rollback

namespace PagedTables

open PagedTables.Action

namespace DurableStore

variable {s t u : DurableStore} {h g : FreeHistory} {ids spare : List PageId} {f : PageFile}
variable {call : StoreCall} {a : StoreAnswer} {e : StoreError}

/-! ## What is read back -/

/-- **What a commit has written can be read**, whatever the spare pages are. -/
theorem Filled.readable (hs : s.Poised h spare) (hst : s.Filled t ids spare h g)
    (hroom : s.HasRoomFor s.index) (hw : t.pages.Written f)
    (hsealed : Sealed f (t.metaPage (ids.headD PageId.null))) :
    Readable t.pages.pageSize f.disk.bytes (t.pending ids) := by
  have htsize := hst.pageSize_eq
  have hindex := hst.index_eq
  have hlist : t.free.Tracks t.pages.view t.pages.pageCount g [] (ids ++ spare) :=
    hst.ready.tracks.list
  have hrange : ∀ id ∈ ids, 0 < id ∧ id < t.pages.pageCount := fun id hid =>
    hlist.held_range (List.mem_append_left _ hid)
  obtain ⟨hseq, hcount⟩ := hst.bounds hroom.room
  refine {
    size_valid := htsize ▸ hs.size_valid
    size_lt := ?_
    count_lt := hcount
    seq_lt := hseq
    length_le := ?_
    meta_eq := hsealed.meta_eq
    chain := ⟨s.payloads, ?_, ?_⟩
    snapshot_range := hrange
    snapshot_nodup := (List.nodup_append.mp hlist.nodup_held).1
    headSeq_le := Nat.le_trans hlist.headSeq_le hlist.watermark_le
    headPage_range := hlist.node_range hlist.headPage_mem
    tailPage_range := hlist.node_range hlist.tailPage_mem }
  · show t.index.size < 2 ^ 64
    rw [hindex]
    exact hroom.size_lt
  · have hle : f.pageCount * f.pageSize ≤ f.disk.bytes.length :=
      (hst.poised_published hs hw hsealed.clean).length_le
    rwa [hw.pageCount_eq, hw.pageSize_eq] at hle
  · have hchain := hst.chain.of_pages fun id hid =>
      storedPage_of_written hw hsealed.clean (hrange id hid).1 (hrange id hid).2
    rwa [← htsize] at hchain
  · show s.payloads.flatten = Snapshot.encodeEntries t.index.entries.toList
    rw [hindex, flatten_payloads hs.size_valid]

/-- A commit that succeeds can be read back. -/
theorem Poised.opensTo_of_commit (hs : s.Poised h spare) (hroom : s.HasRoomFor s.index)
    (hrun : commit s = .ok () u) (hfits : ∀ e ∈ s.index.entries.toList, Snapshot.Fits e) :
    OpensTo u.pages.disk.bytes s.index.entries := by
  obtain ⟨ids, t, g, f, hst, hw, hsealed, rfl⟩ := hs.published_of_commit hroom.room hrun
  have hentries : (t.pending ids).entries = s.index.entries :=
    congrArg MemoryStore.entries hst.index_eq
  rw [← hentries] at hfits ⊢
  exact (hst.readable hs hroom hw hsealed).opensTo hfits

/-! ## Ready stores -/

/-- A store with an intact list is ready right after opening. -/
theorem Opened.poised (hs : s.Opened)
    (hi : s.free.Intact s.pages.view s.pages.pageCount s.snapshot) :
    s.Poised (s.free.pretended s.pages.view)
      (s.free.spare s.pages.view s.pages.pageCount s.snapshot) := by
  have hcap : s.free.capacity = FreeNode.capacity s.pages.pageSize := by
    rw [hs.free_eq]
    rfl
  have hmark : s.free.watermark = s.free.tailSeq := by
    rw [hs.free_eq]
    rfl
  have htracks := hi.tracks (by rw [hcap]; exact two_le_capacity hs.size_valid) hs.headSeq_le hmark
  refine ⟨hs.size_valid, ⟨⟨hs.sound, hcap, htracks⟩, ?_⟩, hs.clean, hmark, hs.committed_eq⟩
  have hlt := htracks.watermark_lt
  rwa [hmark] at hlt

/-- A call that succeeds leaves a store that is ready. -/
theorem Poised.of_call_ok (hs : s.Poised h spare)
    (hroom : call.commits s = true → s.HasRoomFor (call.contents s.index))
    (hrun : call.run s = .ok a t) : ∃ g, t.Poised g spare := by
  rcases StoreCall.ok_cases hrun with ⟨-, -, ht⟩ | ⟨hcommits, u, hsame, hm, hcommit⟩
  · rw [ht]
    exact ⟨h, SameFile.poised rfl hs⟩
  · have hu := hsame.poised hs
    obtain ⟨ids, v, g, f, hst, hw, hsealed, rfl⟩ :=
      hu.published_of_commit (hsame.hasRoomFor hm (hroom hcommits)).room hcommit
    exact ⟨_, hst.poised_published hu hw hsealed.clean⟩

/-- So does a call that fails. -/
theorem Poised.of_call_error (hs : s.Poised h spare)
    (hroom : call.commits s = true → s.HasRoomFor (call.contents s.index))
    (hrun : call.run s = .error e t) : t.Poised h spare := by
  rcases StoreCall.error_cases hrun with ⟨-, ht⟩ | ⟨hcommits, u, w, hsame, hm, hcommit, hback⟩
  · exact ht ▸ hs
  · have hu := hsame.poised hs
    obtain ⟨ids, v, g, f, hst, hw, -, rfl⟩ :=
      hu.rolledBack_of_commit (hsame.hasRoomFor hm (hroom hcommits)).room hcommit
    exact hback.poised (hst.poised_rolledBack hu hw)

/-! ## Runs -/

/-- The states of a store after calls, where writes and syncs turn out in any way. -/
inductive Continues (start : DurableStore) : DurableStore → Prop
  /-- Nothing was called. -/
  | start : Continues start start
  /-- A call succeeds, with or without a commit. -/
  | called {s t : DurableStore} {a : StoreAnswer} (call : StoreCall) (faults : List Fault) :
      Continues start s → (call.commits s = true → s.HasRoomFor (call.contents s.index)) →
      call.run (s.withFaults faults) = .ok a t → t.pages.pageCount < 2 ^ 64 → Continues start t
  /-- A call fails. -/
  | failed {s t : DurableStore} {e : StoreError} (call : StoreCall) (faults : List Fault) :
      Continues start s → (call.commits s = true → s.HasRoomFor (call.contents s.index)) →
      call.run (s.withFaults faults) = .error e t → Continues start t

/-- Such calls lead to states of a store in a file. -/
theorem Continues.alive (ht : Continues s t) (hs : Alive s) : Alive t := by
  induction ht with
  | start => exact hs
  | called call faults _ _ hrun hcount ih => exact (ih.disturbed _).called call hrun hcount
  | failed call faults _ _ hrun ih => exact (ih.disturbed _).failed call hrun

/-- Such calls keep the history of the free list, and spare the same pages. -/
theorem Continues.poised (ht : Continues s t) (hs : s.Poised h spare) :
    ∃ g, t.Poised g spare := by
  induction ht with
  | start => exact ⟨h, hs⟩
  | @called s t a call faults _ hroom hrun _ ih =>
    obtain ⟨g, hs⟩ := ih
    refine (hs.withFaults faults).of_call_ok (fun hcommits => ?_) hrun
    rw [commits_withFaults] at hcommits
    exact (hroom hcommits).withFaults faults
  | @failed s t e call faults _ hroom hrun ih =>
    obtain ⟨g, hs⟩ := ih
    refine ⟨g, (hs.withFaults faults).of_call_error (fun hcommits => ?_) hrun⟩
    rw [commits_withFaults] at hcommits
    exact (hroom hcommits).withFaults faults

/-! ## Commits to an opened file -/

/-- The pages of a new snapshot are pages of the file, and none is the meta page. -/
theorem snapshot_range_of_commit (hpos : 0 < s.pages.pageCount) (hrun : commit s = .ok () t) :
    ∀ id ∈ t.snapshot, 0 < id ∧ id < t.pages.pageCount := by
  obtain ⟨ids, u, hstage, hsnapshot, hcount, -⟩ := commit_ok hrun
  rw [hsnapshot, hcount]
  unfold stage at hstage
  rw [get_bind] at hstage
  obtain ⟨ids', s₁, halloc, hstage⟩ := exists_of_bind_ok hstage
  obtain ⟨_, s₂, hwrite, hstage⟩ := exists_of_bind_ok hstage
  obtain ⟨_, s₃, hpush, hstage⟩ := exists_of_bind_ok hstage
  injection hstage with hids hu
  subst hids hu
  obtain ⟨q, hmany, rfl⟩ := exists_of_within_ok halloc
  have hchain := ((rewrites_onPages (Snapshot.sameCount_writeChain _ _)).ok hwrite).sameCount
  have hpushed := (drafts_onPool (PagePool.frugal_pushAll _)).ok hpush
  have hle : q.pages.pageCount ≤ s₃.pages.pageCount :=
    Nat.le_trans (Nat.le_of_eq hchain.symm) hpushed.frugal.pageCount_le
  intro id hid
  have hr := PagePool.allocateMany_range hmany hpos id hid
  exact ⟨hr.1, Nat.lt_of_lt_of_le hr.2 hle⟩

/-- **A commit that succeeds** has put the entries into pages of the file, whatever the file held
when it was opened. If the free list was intact then, the file opens to the entries. -/
theorem Continues.commit_readable {path : String} {status : FileStatus} {options : StoreOptions}
    {faults : List Fault} (hopen : «open» path status options = .ok u) (hs : Continues u s)
    (hcommits : call.commits s = true) (hroom : s.HasRoomFor (call.contents s.index))
    (hrun : call.run (s.withFaults faults) = .ok a t) :
    (∀ id ∈ t.snapshot, 0 < id ∧ id < t.pages.pageCount) ∧
    (u.free.Intact u.pages.view u.pages.pageCount u.snapshot →
      (∀ e ∈ t.index.entries.toList, Snapshot.Fits e) →
      OpensTo t.pages.disk.bytes t.index.entries) := by
  rw [← commits_withFaults call faults] at hcommits
  rcases StoreCall.ok_cases hrun with ⟨hno, -⟩ | ⟨-, v, hsame, hm, hcommit⟩
  · rw [hcommits] at hno
    cases hno
  · constructor
    · refine snapshot_range_of_commit ?_ hcommit
      rw [hsame]
      exact (hs.alive (.opened hopen)).idle.1.count_pos
    · intro hi hfits
      obtain ⟨g, hpoised⟩ := hs.poised ((opened_of_open hopen).poised hi)
      have hv := hsame.poised (hpoised.withFaults faults)
      have hindex : t.index = v.index := sameIndex_commit.ok hcommit
      rw [hindex] at hfits ⊢
      exact hv.opensTo_of_commit (hsame.hasRoomFor hm (hroom.withFaults faults)) hcommit hfits

/-! ## A file of two commits -/

/-- A new file after a key was written twice. -/
def twiceWritten : Bytes :=
  match «open» "data" .absent { pageSize := 128 } with
  | .error _ => []
  | .ok s =>
    let t := ((StoreCall.update [1] [2] .upsert).run.outcome s).2
    ((StoreCall.update [1] [3] .upsert).run.outcome t).2.pages.disk.bytes

set_option maxRecDepth 2048 in
/-- The list of the file is intact, and has one free page. -/
theorem commit_readable_of_twiceWritten : ∃ u a t,
    «open» "data" (.present twiceWritten) { pageSize := 128 } = .ok u ∧ u.free.length = 1 ∧
    (StoreCall.update [1] [4] .upsert).run (u.withFaults []) = .ok a t ∧
    t.index.entries.toList = [([1], [4])] ∧ OpensTo t.pages.disk.bytes t.index.entries := by
  have hrun : Except.succeeds («open» "data" (.present twiceWritten) { pageSize := 128 })
      (fun u => decide (u.free.length = 1) &&
        decide (u.free.Intact u.pages.view u.pages.pageCount u.snapshot) &&
        (StoreCall.update [1] [4] .upsert).commits u &&
        decide (u.HasRoomFor ((StoreCall.update [1] [4] .upsert).contents u.index)) &&
          (StoreCall.update [1] [4] .upsert).run.succeeds (u.withFaults []) fun t =>
            decide (t.index.entries.toList = [([1], [4])])) = true := by
    decide +kernel
  obtain ⟨u, hopen, hrun⟩ := Except.exists_of_succeeds hrun
  simp only [Bool.and_eq_true, decide_eq_true_iff] at hrun
  obtain ⟨⟨⟨⟨hfree, hintact⟩, hcommits⟩, hroom⟩, hrun⟩ := hrun
  obtain ⟨a, t, hcalled, hentries⟩ := exists_of_succeeds hrun
  rw [decide_eq_true_iff] at hentries
  have hreadable := Continues.commit_readable hopen .start hcommits hroom hcalled
  refine ⟨u, a, t, hopen, hfree, hcalled, hentries, hreadable.2 hintact ?_⟩
  rw [hentries]
  unfold Snapshot.Fits
  decide

/-- The same file, whose free page is now the node of the free list itself. -/
def nodeFreed : Bytes :=
  twiceWritten.overwrite 136 [1]

set_option maxRecDepth 2048 in
/-- A write to this file succeeds, and then the file no longer opens. -/
theorem unreadable_of_nodeFreed : ∃ u a t e,
    «open» "data" (.present nodeFreed) { pageSize := 128 } = .ok u ∧
    (StoreCall.update [1] [4] .upsert).run u = .ok a t ∧
    «open» "data" (.present t.pages.disk.bytes) { pageSize := 128 } = .error e := by
  have hrun : Except.succeeds («open» "data" (.present nodeFreed) { pageSize := 128 })
      (fun u => (StoreCall.update [1] [4] .upsert).run.succeeds u fun t =>
        !Except.succeeds («open» "data" (.present t.pages.disk.bytes) { pageSize := 128 })
          fun _ => true) = true := by
    decide +kernel
  obtain ⟨u, hopen, hrun⟩ := Except.exists_of_succeeds hrun
  obtain ⟨a, t, hcalled, hrun⟩ := exists_of_succeeds hrun
  obtain ⟨e, hreopen⟩ := Except.exists_of_not_succeeds hrun
  exact ⟨u, a, t, e, hopen, hcalled, hreopen⟩

end DurableStore

end PagedTables
