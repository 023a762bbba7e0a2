/-
# Atomic commits

A crash during a commit leaves a file on which the changed pages are written in part, each of
them perhaps torn. As long as the meta page is the old one, such a file opens to the state of
the last commit; once all pages and then the meta page are written, it opens to the new state.

* `Recovers` : a file opens to a checkpoint, whatever the options;
* `Stored.recovers_iff` : it does if it holds the checkpoint, and its lengths can be written;
* `DurableStore.Reached.commit_atomic` : crashes during a commit of any entries;
* `DurableStore.unreadable_of_longValue` : a commit of a value that is too long to be read back.
-/
import PagedTables.Proofs.Snapshot.Format
import PagedTables.Proofs.Store.Reached

namespace PagedTables

/-- The file opens to a checkpoint under all valid options. -/
def Recovers (file : Bytes) (c : Checkpoint) : Prop :=
  ∀ (path : String) (options : StoreOptions), options.check = .ok () →
    ∃ t, DurableStore.open path (.present file) options = .ok t ∧ t.checkpoint = c ∧
      t.index = ⟨c.entries, options.maxKeySize, options.maxValueSize⟩

/-! ## Files with a checkpoint -/

section Recovers

variable {size : Nat} {file : Bytes} {c : Checkpoint} {h : FreeHistory} {options : StoreOptions}

/-- Opening a readable file decodes the stream of its entries, and fails at most there. -/
theorem Readable.open_eq_map (path : String) (hvalid : options.check = .ok ())
    (hs : Readable size file c) :
    ∃ g, DurableStore.open path (.present file) options =
      (Snapshot.decodeEntries (Snapshot.encodeEntries c.entries.toList) c.entries.size).map
        (DurableStore.loaded c g options) := by
  obtain ⟨g, hload, -⟩ := DurableStore.load_of_readable path options hs
  exact ⟨g, (DurableStore.open_eq_load path hvalid hs.ne_nil).trans hload⟩

/-- A file that holds a checkpoint opens to it, if its lengths can be written. -/
theorem Stored.recovers (hs : Stored size file c h)
    (hfits : ∀ e ∈ c.entries.toList, Snapshot.Fits e) : Recovers file c := by
  intro path options hvalid
  obtain ⟨t, hopen, -, hcheckpoint, hindex, -⟩ := DurableStore.open_of_stored path hvalid hs hfits
  exact ⟨t, hopen, hcheckpoint, hindex⟩

/-- **A file that holds a checkpoint opens to it** exactly if the lengths of its keys and values
can be written. Else they are cut off in the stream, which spells other entries or none. -/
theorem Stored.recovers_iff (hs : Stored size file c h) :
    Recovers file c ↔ ∀ e ∈ c.entries.toList, Snapshot.Fits e := by
  refine ⟨fun hrec => ?_, hs.recovers⟩
  have hvalid : StoreOptions.check {} = .ok () := by decide
  obtain ⟨t, hopen, -, hindex⟩ := hrec "" {} hvalid
  obtain ⟨g, hmap⟩ := hs.readable.open_eq_map "" hvalid
  rw [hmap] at hopen
  obtain ⟨es, hdecode, rfl⟩ := Except.map_eq_ok_iff.mp hopen
  obtain ⟨-, hascending, hfits, -⟩ := Snapshot.decodeEntries_eq_ok_iff.mp hdecode
  -- what is decoded is ascending, so it is the map that it is put into
  have hdecoded : es.foldl (fun n e => n.insert e.1 e.2) (∅ : Entries) = ⟨es, hascending⟩ :=
    OrderedMap.foldl_insert ⟨es, hascending⟩
  change es.foldl (fun (m : MemoryStore) e => m.load e.1 e.2) _ = _ at hindex
  rw [DurableStore.foldl_load] at hindex
  have hentries : es.foldl (fun n e => n.insert e.1 e.2) (∅ : Entries) = c.entries :=
    congrArg MemoryStore.entries hindex
  rw [← hentries, hdecoded]
  exact hfits

/-- A file whose only entry is too long to be written does not open. -/
theorem Readable.exists_error {e : Entry} (hs : Readable size file c)
    (hentry : c.entries.toList = [e]) (hlong : ¬ Snapshot.Fits e) (path : String)
    (hvalid : options.check = .ok ()) :
    ∃ r, DurableStore.open path (.present file) options = .error r := by
  obtain ⟨g, hmap⟩ := hs.open_eq_map path hvalid
  rw [OrderedMap.size, hentry] at hmap
  cases hdecode : Snapshot.decodeEntries (Snapshot.encodeEntries [e]) [e].length with
  | ok es => exact absurd (Snapshot.fits_of_decodeEntries hdecode) hlong
  | error r =>
    rw [hdecode] at hmap
    exact ⟨r, hmap⟩

end Recovers

/-! ## Commits -/

namespace DurableStore

variable {s t : DurableStore} {c : Checkpoint} {v : Nat}

/-- The store with other entries, where the next writes and syncs turn out as planned. -/
def withEntries (s : DurableStore) (m : MemoryStore) (faults : List Fault) : DurableStore :=
  { s.withFaults faults with index := m }

/-- **Commits are atomic.** Whatever entries a reached store is to commit, a file with any part
of the changed pages holds the last checkpoint, and a file with all pages and then the meta page
holds the new one. Each opens to what it holds exactly if the keys and values there are shorter
than 2^32 bytes, as their lengths are written in 32 bits. The commit itself leaves such a file,
unless it meets a fault. -/
theorem Reached.commit_atomic (hr : Reached c v s) (m : MemoryStore) (faults : List Fault)
    (hv : v + (Snapshot.encodeEntries m.entries.toList).length < 2 ^ 60) :
    ∃ ids t, stage (s.withEntries m faults) = .ok ids t ∧
      (∀ file, TornFrom s.pages.disk.bytes t.pages file →
        (Recovers file c ↔ ∀ e ∈ c.entries.toList, Snapshot.Fits e)) ∧
      (t.pending ids).entries = m.entries ∧
      (∀ file, t.Complete ids file →
        (Recovers file (t.pending ids) ↔ ∀ e ∈ m.entries.toList, Snapshot.Fits e)) ∧
      ((∃ w, commit (s.withEntries m faults) = .ok () w ∧ w.checkpoint = t.pending ids ∧
          t.Complete ids w.pages.disk.bytes) ∨
        faults ≠ [] ∧ ∃ e w, commit (s.withEntries m faults) = .error e w ∧
          (w.storedMeta = s.storedMeta →
            TornFrom s.pages.disk.bytes t.pages w.pages.disk.bytes)) := by
  obtain ⟨⟨h, hs⟩, ha⟩ := hr.settled (by omega)
  have hs' : (s.withEntries m faults).Settled c h :=
    SameFile.settled (s := s.withFaults faults) rfl (hs.withFaults faults)
  have hroom : (s.withEntries m faults).HasRoom := Accounts.hasRoom hs' ha hv
  have hsize : m.size < 2 ^ 64 := by
    have hle := Snapshot.length_le_length_encodeEntries m.entries.toList
    show m.entries.toList.length < 2 ^ 64
    omega
  obtain ⟨ids, t, g, f, hstage, hst, hw, hout⟩ := commit_outcome hs' hroom
  have hp := hst.publishable hs'.poised hroom hsize
  have hindex : t.index = m := by
    rw [hst.rest_eq]
    rfl
  have hentries : (t.pending ids).entries = m.entries := by
    show t.index.entries = m.entries
    rw [hindex]
  refine ⟨ids, t, hstage, ?_, hentries, ?_, ?_⟩
  · intro file htorn
    exact (hst.stored_of_torn hs' htorn).recovers_iff
  · intro file hfile
    rw [← hentries]
    exact (hp.stored_of_complete hfile).recovers_iff
  · rcases hout with ⟨hrun, hsealed⟩ | ⟨e, hrun, hfaults⟩
    · have hcomplete : t.Complete ids f.disk.bytes := hp.complete hw hsealed
      exact Or.inl ⟨t.published ids f, hrun, hp.checkpoint_published hw hsealed, hcomplete⟩
    · refine Or.inr ⟨hfaults, e, _, hrun, fun hmeta => ?_⟩
      have hfsize : f.pageSize = s.pages.pageSize :=
        hw.pageSize_eq.trans hst.grows.pageSize_eq
      change storedPage f.pageSize f.disk.bytes PageId.metaPage = _ at hmeta
      rw [hfsize] at hmeta
      have htorn : TornFrom (s.withEntries m faults).pages.disk.bytes t.pages f.disk.bytes :=
        hst.torn_of_written hs' hw hmeta
      exact htorn

/-- A commit that changes the entry of the commit before. -/
theorem commit_atomic_of_changed : ∃ s t ids u, «open» "data" .absent {} = .ok s ∧
    (StoreCall.update [1] [2] .upsert).run (s.withFaults []) = .ok (.written ⟨true, true⟩) t ∧
    t.checkpoint.entries.toList = [([1], [2])] ∧
    stage (t.withEntries ⟨OrderedMap.ofList [([1], [3, 4])], 1000, 3000⟩ []) = .ok ids u ∧
    (∀ file, TornFrom t.pages.disk.bytes u.pages file → Recovers file t.checkpoint) ∧
    (u.pending ids).entries.toList = [([1], [3, 4])] ∧
    ∀ file, u.Complete ids file → Recovers file (u.pending ids) := by
  obtain ⟨s, t, hopen, hrun, hentries, ht⟩ := exists_first_written "data"
    (show StoreOptions.check {} = .ok () by decide) rfl rfl
    (show MemoryStore.checkEntry _ [1] [2] = .ok () from rfl) (by decide)
  obtain ⟨ids, u, hstage, htorn, hpending, hcomplete, -⟩ :=
    ht.commit_atomic ⟨OrderedMap.ofList [([1], [3, 4])], 1000, 3000⟩ [] (by decide)
  refine ⟨s, t, ids, u, hopen, hrun, hentries, hstage, fun file hfile => (htorn file hfile).mpr ?_,
    by rw [hpending]; rfl, fun file hfile => (hcomplete file hfile).mpr ?_⟩
  · rw [hentries]
    unfold Snapshot.Fits
    decide
  · unfold Snapshot.Fits
    decide

/-! ## Values of four gigabytes -/

/-- A value whose length is cut off to zero is committed all the same, and the file does not open
any more. -/
theorem exists_unreadable {value : Bytes} (hlength : value.length = 2 ^ 32) : ∃ s t r,
    «open» "data" .absent { maxValueSize := 2 ^ 32 } = .ok s ∧
    (StoreCall.update [1] value .upsert).run (s.withFaults []) = .ok (.written ⟨true, true⟩) t ∧
    «open» "data" (.present t.pages.disk.bytes) { maxValueSize := 2 ^ 32 } = .error r := by
  have hvalid : StoreOptions.check { maxValueSize := 2 ^ 32 } = .ok () := by decide
  -- the value is as long as the options allow
  have hcheck : (MemoryStore.ofOptions { maxValueSize := 2 ^ 32 }).checkEntry [1] value =
      .ok () :=
    MemoryStore.checkEntry_eq_ok_iff.mpr ⟨List.cons_ne_nil _ _, by decide, hlength.le⟩
  have hshort : [(1 : UInt8)].length + value.length + 8 < 2 ^ 60 := by
    rw [hlength]
    decide
  have hlong : ¬ Snapshot.Fits ([1], value) := fun hfits => by
    have hlt : value.length < 2 ^ 32 := hfits.2
    omega
  obtain ⟨s, t, hopen, hrun, hentries, ht⟩ :=
    exists_first_written "data" hvalid rfl rfl hcheck hshort
  obtain ⟨⟨h, hs⟩, -⟩ := ht.settled hshort
  obtain ⟨r, hreopen⟩ := hs.stored.readable.exists_error hentries hlong "data" hvalid
  exact ⟨s, t, r, hopen, hrun, hreopen⟩

/-- **Commits are not atomic for lengths beyond 32 bits.** A value of 2^32 zeros is committed to a
new file without a fault, but its length is written as zero, and the file is refused. -/
theorem unreadable_of_longValue : ∃ s t r,
    «open» "data" .absent { maxValueSize := 2 ^ 32 } = .ok s ∧
    (StoreCall.update [1] (List.replicate (2 ^ 32) 0) .upsert).run (s.withFaults []) =
      .ok (.written ⟨true, true⟩) t ∧
    «open» "data" (.present t.pages.disk.bytes) { maxValueSize := 2 ^ 32 } = .error r :=
  exists_unreadable List.length_replicate

end DurableStore

end PagedTables
