/-
# Commits that fail after they took effect

A commit may report an error although its meta page was written. The file then holds the new
entries, while the store in memory is that of the last commit again. So the next commit takes
pages that the file needs, and if it fails before its own meta page is written, the file may be
unreadable. Otherwise the file holds the entries of one commit: of the last one that succeeded,
or of a later one.

* `DurableStore.Poised.stored_of_failed` : a failed commit that has written its meta page has
  written everything;
* `DurableStore.Attempted` : the states of a store whose commits may fail;
* `DurableStore.Attempted.survives_crash` : what its file opens to, also after a crash in a commit;
* `DurableStore.unreadable_of_reuse` : a commit that fails after one that took effect.
-/
import PagedTables.Proofs.Store.Atomicity

namespace PagedTables

namespace DurableStore

variable {s t u : DurableStore} {c : Checkpoint} {h : FreeHistory} {call : StoreCall}
variable {a : StoreAnswer} {e : StoreError} {E : Entries} {landed : Option Entries}

/-! ## One commit -/

/-- A commit that fails before the meta page is written leaves the store settled. -/
theorem Settled.of_failed (hs : s.Settled c h) (hroom : s.HasRoomFor s.index)
    (hrun : commit s = .error e u) (hmeta : u.storedMeta = s.storedMeta) : u.Settled c h := by
  obtain ⟨ids, t, g, f, hst, hw, -, rfl⟩ := hs.poised.rolledBack_of_commit hroom.room hrun
  have hfsize : f.pageSize = s.pages.pageSize := hw.pageSize_eq.trans hst.pageSize_eq
  change storedPage f.pageSize f.disk.bytes PageId.metaPage = _ at hmeta
  rw [hfsize] at hmeta
  exact (filled_nil.mp hst).settled_rolledBack hs hw hmeta

section Commits

variable (hs : s.Poised h []) (hroom : s.HasRoomFor s.index)
include hs hroom

/-- A commit that succeeds leaves a store whose file holds its checkpoint. -/
theorem Poised.settled_of_commit (hrun : commit s = .ok () u) : ∃ g, u.Settled u.checkpoint g := by
  obtain ⟨ids, t, g, f, hst, hw, hsealed, rfl⟩ := hs.published_of_commit hroom.room hrun
  have hp := (filled_nil.mp hst).publishable hs hroom.room hroom.size_lt
  rw [hp.checkpoint_published hw hsealed]
  exact ⟨_, hp.settled_published hw hsealed⟩

/-- A commit that fails leaves the pages poised for the next one. -/
theorem Poised.of_failed (hrun : commit s = .error e u) : u.Poised h [] := by
  obtain ⟨ids, t, g, f, hst, hw, -, rfl⟩ := hs.rolledBack_of_commit hroom.room hrun
  exact hst.poised_rolledBack hs hw

/-- **A commit that fails, but has written its meta page**, has written everything. -/
theorem Poised.stored_of_failed (hrun : commit s = .error e u)
    (hmeta : u.storedMeta ≠ s.storedMeta) :
    ∃ c g, Stored u.pages.pageSize u.pages.disk.bytes c g ∧ c.entries = s.index.entries := by
  obtain ⟨ids, t, g, f, hst, hw, hstuck, rfl⟩ := hs.rolledBack_of_commit hroom.room hrun
  have hp := (filled_nil.mp hst).publishable hs hroom.room hroom.size_lt
  rcases hstuck with hsame | hsealed
  · have htsize := hst.pageSize_eq
    have hdisk := hst.disk_eq
    have hlen : t.pages.pageSize ≤ t.pages.disk.bytes.length := by
      have hpos : 0 < s.pages.pageCount := hs.ready.tracks.list.count_pos
      rw [htsize, hdisk]
      exact Nat.le_trans (Nat.le_mul_of_pos_left _ hpos) hs.length_le
    have heq := hsame.storedPage_eq hlen (Nat.le_trans hlen hw.length_le)
    refine absurd ?_ hmeta
    show storedPage f.pageSize f.disk.bytes PageId.metaPage =
      storedPage s.pages.pageSize s.pages.disk.bytes PageId.metaPage
    rw [hw.pageSize_eq, heq, hdisk, htsize]
  · refine ⟨t.pending ids, { g with kept := t.free.headSeq }, ?_, ?_⟩
    · show Stored f.pageSize f.disk.bytes _ _
      rw [hw.pageSize_eq]
      exact hp.stored_of_complete (hp.complete hw hsealed)
    · exact congrArg MemoryStore.entries hst.index_eq

end Commits

/-! ## Runs -/

/-- The states of a store since its file was created. Each comes with the entries of the last
commit that succeeded, and with those of a later one that failed although its meta page was
written, if there was one. After that no commit may fail before its meta page is written. -/
inductive Attempted : Entries → Option Entries → DurableStore → Prop
  /-- A new file. -/
  | created {path : String} {status : FileStatus} {options : StoreOptions} {s : DurableStore} :
      status.bytes = [] → «open» path status options = .ok s → Attempted s.index.entries none s
  /-- A call that does not commit. -/
  | kept {E : Entries} {landed : Option Entries} {s t : DurableStore} (call : StoreCall) :
      Attempted E landed s → call.commits s = false → (call.run.outcome s).2 = t →
      Attempted E landed t
  /-- A commit that succeeds. -/
  | committed {E : Entries} {landed : Option Entries} {s t : DurableStore} {a : StoreAnswer}
      (call : StoreCall) (faults : List Fault) : Attempted E landed s →
      call.commits s = true → s.HasRoomFor (call.contents s.index) →
      call.run (s.withFaults faults) = .ok a t → Attempted t.index.entries none t
  /-- A commit that fails before the meta page is written. -/
  | undone {E : Entries} {s t : DurableStore} {e : StoreError} (call : StoreCall)
      (faults : List Fault) : Attempted E none s →
      s.HasRoomFor (call.contents s.index) → call.run (s.withFaults faults) = .error e t →
      t.storedMeta = s.storedMeta → Attempted E none t
  /-- A commit that fails when the meta page is written. -/
  | landed {E : Entries} {landed : Option Entries} {s t : DurableStore} {e : StoreError}
      (call : StoreCall) (faults : List Fault) : Attempted E landed s →
      s.HasRoomFor (call.contents s.index) → call.run (s.withFaults faults) = .error e t →
      t.storedMeta ≠ s.storedMeta → Attempted E (some (call.contents s.index).entries) t
  /-- The store is dropped, and its file opened again. -/
  | reopened {E : Entries} {landed : Option Entries} {s t : DurableStore} {path : String}
      {options : StoreOptions} : Attempted E landed s →
      «open» path (.present s.pages.disk.bytes) options = .ok t →
      Attempted (landed.getD E) none t

/-- The file holds the entries of the last commit that took effect. Unless that commit has
failed, the store agrees with the file. -/
structure Survives (E : Entries) (landed : Option Entries) (s : DurableStore) (c : Checkpoint)
    (h : FreeHistory) : Prop where
  poised : s.Poised h []
  stored : ∃ g, Stored s.pages.pageSize s.pages.disk.bytes c g
  entries_eq : c.entries = landed.getD E
  settled : landed = none → s.Settled c h

/-- A settled store survives with the entries of its checkpoint. -/
theorem Settled.survives (hs : s.Settled c h) (hE : c.entries = E) : Survives E none s c h :=
  ⟨hs.poised, ⟨h, hs.stored⟩, hE, fun _ => hs⟩

theorem SameFile.survives (hst : s.SameFile t) (hs : Survives E landed s c h) :
    Survives E landed t c h := by
  refine ⟨hst.poised hs.poised, ?_, hs.entries_eq, fun hnone => hst.settled (hs.settled hnone)⟩
  rw [hst]
  exact hs.stored

theorem Survives.withFaults (hs : Survives E landed s c h) (faults : List Fault) :
    Survives E landed (s.withFaults faults) c h :=
  ⟨hs.poised.withFaults faults, hs.stored, hs.entries_eq,
    fun hnone => (hs.settled hnone).withFaults faults⟩

/-- A call without a commit leaves the file alone. -/
theorem sameFile_of_kept (hcommits : call.commits s = false) :
    s.SameFile (call.run.outcome s).2 := by
  unfold Action.outcome
  cases hrun : call.run s with
  | ok a t =>
    rcases StoreCall.ok_cases hrun with ⟨-, -, ht⟩ | ⟨hyes, -⟩
    · show t = _
      rw [ht]
    · rw [hcommits] at hyes
      cases hyes
  | error e t =>
    rcases StoreCall.error_cases hrun with ⟨-, ht⟩ | ⟨hyes, -⟩
    · exact ht ▸ SameFile.refl
    · rw [hcommits] at hyes
      cases hyes

/-- **In every such state** the file holds the entries of one commit. -/
theorem Attempted.exists_survives (hs : Attempted E landed s) :
    ∃ c h, Survives E landed s c h := by
  induction hs with
  | created hbytes hopen =>
    obtain ⟨t, g, hcreate, hsettled, -⟩ := create_ok _ (check_of_open hopen)
    rw [create_of_open hbytes hopen] at hcreate
    obtain rfl := Except.ok.inj hcreate
    exact ⟨_, _, hsettled.survives rfl⟩
  | kept call _ hcommits ht ih =>
    obtain ⟨c, h, hs⟩ := ih
    exact ⟨c, h, (ht ▸ sameFile_of_kept hcommits).survives hs⟩
  | committed call faults _ hcommits hroom hrun ih =>
    obtain ⟨c, h, hs⟩ := ih
    rw [← commits_withFaults call faults] at hcommits
    rcases StoreCall.ok_cases hrun with ⟨hno, -⟩ | ⟨-, u, hsame, hm, hcommit⟩
    · rw [hcommits] at hno
      cases hno
    · obtain ⟨g, hsettled⟩ := (hsame.poised (hs.poised.withFaults faults)).settled_of_commit
        (hsame.hasRoomFor hm (hroom.withFaults faults)) hcommit
      exact ⟨_, g, hsettled.survives rfl⟩
  | undone call faults _ hroom hrun hmeta ih =>
    obtain ⟨c, h, hs⟩ := ih
    rcases StoreCall.error_cases hrun with ⟨-, rfl⟩ | ⟨-, u, w, hsame, hm, hcommit, hback⟩
    · exact ⟨c, h, hs.withFaults faults⟩
    · have hu := hsame.settled ((hs.settled rfl).withFaults faults)
      have hmeta' : w.storedMeta = u.storedMeta := by
        rw [← hback.storedMeta_eq, hsame.storedMeta_eq]
        exact hmeta
      have hw := hu.of_failed (hsame.hasRoomFor hm (hroom.withFaults faults)) hcommit hmeta'
      exact ⟨c, h, (hback.settled hw).survives hs.entries_eq⟩
  | landed call faults _ hroom hrun hmeta ih =>
    obtain ⟨c, h, hs⟩ := ih
    rcases StoreCall.error_cases hrun with ⟨-, rfl⟩ | ⟨-, u, w, hsame, hm, hcommit, hback⟩
    · exact absurd rfl hmeta
    · have hu := hsame.poised (hs.poised.withFaults faults)
      have hroom' := hsame.hasRoomFor hm (hroom.withFaults faults)
      obtain ⟨c', g, hstored, hentries⟩ := hu.stored_of_failed hroom' hcommit (by
        rw [← hback.storedMeta_eq, hsame.storedMeta_eq]
        exact hmeta)
      refine ⟨c', h, hback.poised (hu.of_failed hroom' hcommit), ⟨g, ?_⟩, ?_, nofun⟩
      · rw [hback]
        exact hstored
      · rw [hentries, ← hm]
        rfl
  | reopened _ hopen ih =>
    obtain ⟨c, h, hs⟩ := ih
    obtain ⟨g, hstored⟩ := hs.stored
    obtain ⟨ht, -⟩ := settled_of_open (check_of_open hopen) hstored hopen
    exact ⟨c, g, ht.survives hs.entries_eq⟩

/-- **Between calls** the file opens to the entries of the last commit that took effect. If that
commit has not failed, the file does so in the middle of the next commit, too, as long as the old
meta page is there. Once everything is written, it opens to the new entries in any case. -/
theorem Attempted.survives_crash (hs : Attempted E landed s) (m : MemoryStore) (faults : List Fault)
    (hroom : s.HasRoomFor m) (hold : ∀ e ∈ (landed.getD E).toList, Snapshot.Fits e)
    (hnew : ∀ e ∈ m.entries.toList, Snapshot.Fits e) :
    OpensTo s.pages.disk.bytes (landed.getD E) ∧
    ∃ ids t, stage (s.withEntries m faults) = .ok ids t ∧
      (landed = none → ∀ file, TornFrom s.pages.disk.bytes t.pages file → OpensTo file E) ∧
      ∀ file, t.Complete ids file → OpensTo file m.entries := by
  obtain ⟨c, h, hs⟩ := hs.exists_survives
  have hsame : (s.withFaults faults).SameFile (s.withEntries m faults) := rfl
  have hs' := hsame.survives (hs.withFaults faults)
  have hroom' : (s.withEntries m faults).HasRoomFor m :=
    hsame.hasRoomFor rfl (hroom.withFaults faults)
  rw [← hs.entries_eq] at hold ⊢
  obtain ⟨g, hstored⟩ := hs.stored
  obtain ⟨ids, t, k, hstage, hst⟩ := hs'.poised.stage_ok hroom'.room
  rw [filled_nil] at hst
  refine ⟨hstored.readable.opensTo hold, ids, t, hstage, ?_, ?_⟩
  · rintro rfl file htorn
    have hE : c.entries = E := hs.entries_eq
    rw [← hE]
    exact (hst.stored_of_torn (hs'.settled rfl) htorn).readable.opensTo hold
  · intro file hfile
    have hp := hst.publishable hs'.poised hroom'.room hroom'.size_lt
    have hentries : (t.pending ids).entries = m.entries :=
      congrArg MemoryStore.entries hst.filled.index_eq
    rw [← hentries] at hnew ⊢
    exact (hp.stored_of_complete hfile).readable.opensTo hnew

/-- The fourth write or sync reports an error and has no effect. -/
def fourthLost : List Fault :=
  [.none, .none, .none, .lost]

/-- A new file after a commit of one entry whose last sync has failed. -/
theorem survives_crash_of_landed : ∃ s e t,
    «open» "data" .absent { pageSize := 128 } = .ok s ∧
    (StoreCall.update [1] [2] .upsert).run (s.withFaults fourthLost) = .error e t ∧
    t.index.entries.toList = [] ∧
    OpensTo t.pages.disk.bytes (OrderedMap.ofList [([1], [2])]) := by
  have hrun : Except.succeeds («open» "data" .absent { pageSize := 128 }) (fun s =>
      decide (s.HasRoomFor ((StoreCall.update [1] [2] .upsert).contents s.index)) &&
      decide (((StoreCall.update [1] [2] .upsert).contents s.index).entries.toList =
        [([1], [2])]) &&
        (StoreCall.update [1] [2] .upsert).run.fails (s.withFaults fourthLost) fun t =>
          decide (t.index.entries.toList = []) && decide (t.storedMeta ≠ s.storedMeta) &&
          decide (t.HasRoomFor t.index)) = true := by
    decide +kernel
  obtain ⟨s, hopen, hrun⟩ := Except.exists_of_succeeds hrun
  simp only [Bool.and_eq_true, decide_eq_true_iff] at hrun
  obtain ⟨⟨hroom, hentries⟩, hrun⟩ := hrun
  obtain ⟨e, t, hfailed, hrun⟩ := Action.exists_of_fails hrun
  simp only [Bool.and_eq_true, decide_eq_true_iff] at hrun
  obtain ⟨⟨hempty, hmeta⟩, hroom'⟩ := hrun
  have hwritten : ((StoreCall.update [1] [2] .upsert).contents s.index).entries =
      OrderedMap.ofList [([1], [2])] := OrderedMap.ext hentries
  have hattempted := (Attempted.created rfl hopen).landed _ fourthLost hroom hfailed hmeta
  rw [hwritten] at hattempted
  have hfits : ∀ e ∈ (OrderedMap.ofList [([1], [2])] : Entries).toList, Snapshot.Fits e := by
    unfold Snapshot.Fits
    decide
  have hsurvives := hattempted.survives_crash t.index [] hroom' hfits (by
    rw [hempty]
    exact nofun)
  exact ⟨s, e, t, hopen, hfailed, hempty, hsurvives.1⟩

set_option maxRecDepth 2048 in
/-- A commit of two pages whose last write has failed, after one whose last sync has failed. The
file has the meta page of the first and the pages of the second, and does not open. -/
theorem unreadable_of_reuse : ∃ s d t e u r,
    «open» "data" .absent { pageSize := 128 } = .ok s ∧
    (StoreCall.update [1] [2] .upsert).run (s.withFaults fourthLost) = .error d t ∧
    (StoreCall.update [1] (List.replicate 120 3) .upsert).run (t.withFaults fourthLost) =
      .error e u ∧
    «open» "data" (.present u.pages.disk.bytes) { pageSize := 128 } = .error r := by
  have hrun : Except.succeeds («open» "data" .absent { pageSize := 128 }) (fun s =>
      (StoreCall.update [1] [2] .upsert).run.fails (s.withFaults fourthLost) fun t =>
        (StoreCall.update [1] (List.replicate 120 3) .upsert).run.fails
          (t.withFaults fourthLost) fun u =>
            !Except.succeeds («open» "data" (.present u.pages.disk.bytes) { pageSize := 128 })
              fun _ => true) = true := by
    decide +kernel
  obtain ⟨s, hopen, hrun⟩ := Except.exists_of_succeeds hrun
  obtain ⟨d, t, hfirst, hrun⟩ := Action.exists_of_fails hrun
  obtain ⟨e, u, hsecond, hrun⟩ := Action.exists_of_fails hrun
  obtain ⟨r, hreopen⟩ := Except.exists_of_not_succeeds hrun
  exact ⟨s, d, t, e, u, r, hopen, hfirst, hsecond, hreopen⟩

end DurableStore

end PagedTables
