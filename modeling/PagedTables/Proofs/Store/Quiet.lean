/-
# Operations that change nothing

Opening a file that holds at least one byte writes nothing, whether it succeeds or fails, and after
that an operation that reports no change makes none: the store is afterwards what it was before,
with its file, its pages, its free list and its snapshot. A file without bytes is treated as one
that does not exist, so that opening it may fill it.

* `DurableStore.leftByOpen`, `DurableStore.leftByOpen_eq` : the bytes that opening leaves;
* `StoreCall.reportsNoChange`, `StoreCall.eq_of_reportsNoChange` : a single call;
* `DurableStore.replies_of_quiet` : operations one after another.
-/
import PagedTables.Proofs.Store.Blame
import PagedTables.Proofs.Store.Opened

namespace PagedTables

open PagedTables.Action

/-! ## What opening leaves -/

namespace PageFile

variable {f g : PageFile}

/-- The file under the pages is the same, and so are the faults that lie ahead. -/
def SameDisk (f g : PageFile) : Prop :=
  g.disk = f.disk

instance : Std.Refl SameDisk :=
  ⟨fun _ => rfl⟩

instance : Trans SameDisk SameDisk SameDisk :=
  ⟨fun hfg hgk => hgk.trans hfg⟩

/-- Loading pages leaves the file. -/
theorem Loads.sameDisk (h : f.Loads g) : f.SameDisk g := by
  rw [h.rest_eq]
  rfl

end PageFile

namespace DurableStore

variable {path : String} {status : FileStatus} {options : StoreOptions} {s : DurableStore}

/-- Reading the snapshot of a file leaves the file alone, even where it fails. -/
theorem sameDisk_readSnapshot (size : Nat) (f : PageFile) :
    Keeps PageFile.SameDisk (readSnapshot size) f := by
  have hread : ∀ id g, Keeps PageFile.SameDisk (PageFile.read id) g := fun id g =>
    (PageFile.loads_read id).mono fun _ h => h.sameDisk
  unfold readSnapshot
  refine .read ?_
  split
  · exact (Keeps.fail _).bind nofun
  · refine (hread _ _).bind fun page g _ => (Keeps.ofExcept _).bind fun description _ _ => ?_
    split
    · exact (Keeps.fail _).bind nofun
    · refine .read ?_
      simp only
      split
      · exact (Keeps.fail _).bind nofun
      · refine Keeps.bind (.change (by rfl)) fun _ _ _ => ?_
        refine ((Snapshot.loads_readChain _).mono fun _ h => h.sameDisk).bind fun r _ _ => ?_
        exact .answer _

/-- The bytes of a file that is not empty after it was loaded, or could not be. -/
def leftByLoad (path : String) (bytes : Bytes) : Bytes :=
  match recordedPageSize bytes with
  | .error _ => bytes
  | .ok size => ((readSnapshot size).outcome (PageFile.ofDisk path size { bytes })).2.disk.bytes

/-- The bytes under a path after a store was opened there, or could not be. -/
def leftByOpen (path : String) (status : FileStatus) (options : StoreOptions) : Bytes :=
  match options.check with
  | .error _ => status.bytes
  | .ok () =>
    if status = .unreadable then status.bytes
    else if !status.bytes.isEmpty then leftByLoad path status.bytes
    else if !options.createIfMissing then status.bytes
    else if status = .uncreatable then status.bytes
    else
      match create path { bytes := [] } options with
      | .ok s => s.pages.disk.bytes
      | .error _ => status.bytes

/-- Loading a file leaves its bytes, also where it fails. -/
theorem leftByLoad_eq (path : String) (bytes : Bytes) : leftByLoad path bytes = bytes := by
  unfold leftByLoad
  cases recordedPageSize bytes with
  | error e => rfl
  | ok size => exact congrArg Disk.bytes (sameDisk_readSnapshot size _)

/-- A store that was loaded has the bytes that loading has left. -/
theorem leftByLoad_of_load {bytes : Bytes} (h : load path { bytes } options = .ok s) :
    leftByLoad path bytes = s.pages.disk.bytes := by
  unfold load at h
  obtain ⟨size, hrecorded, h⟩ := Except.bind_eq_ok_iff.mp h
  cases hread : readSnapshot size (PageFile.ofDisk path size { bytes }) with
  | error e g =>
    rw [hread] at h
    cases h
  | ok r g =>
    rw [hread] at h
    obtain ⟨entries, -, h⟩ := Except.bind_eq_ok_iff.mp h
    obtain rfl := Except.ok.inj h
    have hleft : leftByLoad path bytes = g.disk.bytes := by
      unfold leftByLoad
      rw [show recordedPageSize bytes = .ok size from hrecorded]
      simp only
      rw [outcome_of_ok hread]
    exact hleft

/-- Where opening succeeds, the store has the file that is left. -/
theorem leftByOpen_of_open (h : «open» path status options = .ok s) :
    leftByOpen path status options = s.pages.disk.bytes := by
  have hcheck := check_of_open h
  unfold «open» at h
  unfold leftByOpen
  rw [hcheck] at h ⊢
  simp only at h ⊢
  split at h
  · cases h
  · next hreadable =>
    rw [if_neg hreadable]
    split at h
    · next hbytes =>
      rw [if_pos hbytes]
      exact leftByLoad_of_load h
    · next hbytes =>
      rw [if_neg hbytes]
      split at h
      · cases h
      · next hcreate =>
        rw [if_neg hcreate]
        split at h
        · cases h
        · next hcreatable =>
          rw [if_neg hcreatable, h]

/-- Where no file may be created, only one that holds a byte is opened. -/
theorem bytes_ne_nil_of_open (hcreate : options.createIfMissing = false)
    (h : «open» path status options = .ok s) : status.bytes ≠ [] := by
  intro hempty
  have hcheck := check_of_open h
  unfold «open» at h
  simp only [hcheck, hempty, hcreate, List.isEmpty_nil, Bool.not_true, Bool.not_false,
    Bool.false_eq_true, if_false, if_true] at h
  split at h <;> cases h

/-- **Opening writes nothing** to a file that holds a byte, and nothing where it fails. -/
theorem leftByOpen_eq (h : status.bytes ≠ [] ∨ ∀ s, «open» path status options ≠ .ok s) :
    leftByOpen path status options = status.bytes := by
  unfold leftByOpen
  cases hcheck : options.check with
  | error fault => rfl
  | ok u =>
    simp only
    split
    · rfl
    · next hreadable =>
      split
      · exact leftByLoad_eq path status.bytes
      · next hbytes =>
        split
        · rfl
        · next hcreate =>
          split
          · rfl
          · next hcreatable =>
            -- a new file is never given up
            obtain ⟨t, -, hcreated, -⟩ := create_ok path hcheck
            have hopen : «open» path status options = .ok t := by
              unfold «open»
              rw [hcheck]
              simp only
              rw [if_neg hreadable, if_neg hbytes, if_neg hcreate, if_neg hcreatable, hcreated]
            have hempty : status.bytes = [] := by simpa using hbytes
            rcases h with hne | hfails
            · exact absurd hempty hne
            · exact absurd hopen (hfails t)

end DurableStore

/-! ## Calls -/

namespace StoreCall

variable {call : StoreCall} {s t : DurableStore} {a : StoreAnswer} {n : MemoryStore}

/-- The call reports that nothing has changed, or that it refuses the entry. A commit writes in
any case. -/
def reportsNoChange : StoreCall → Except StoreError StoreAnswer → Bool
  | commit, _ => false
  | _, .ok a => !a.changed
  | _, .error e => e.isLimit

/-- Where nothing is pending, a call that has changed nothing does not commit. -/
theorem commits_of_unchanged (hclean : s.dirty = false) (hcall : call ≠ commit)
    (hmemory : call.onMemory s.index = .ok a n) (hsame : a.changed = false) :
    call.commits s = false := by
  have hchanges : call.changes s.index = false := (changes_of_ok hmemory).trans hsame
  cases call with
  | commit => exact absurd rfl hcall
  | flush => exact hclean
  | update key value mode =>
    show (s.options.autoCommit && changes s.index (update key value mode)) = false
    rw [hchanges, Bool.and_false]
  | delete key =>
    show (s.options.autoCommit && changes s.index (delete key)) = false
    rw [hchanges, Bool.and_false]

/-- Where nothing is pending, an answer without a change comes from a call that has done nothing. -/
theorem eq_of_unchangedAnswer (hclean : s.dirty = false) (hrun : call.run s = .ok a t)
    (hcall : call ≠ commit) (hsame : a.changed = false) : t = s := by
  cases call.ends s with
  | refused _ _ hrun' => cases hrun'.symm.trans hrun
  | undone _ _ _ _ hrun' _ => cases hrun'.symm.trans hrun
  | kept hmemory _ hrun' =>
    cases hrun'.symm.trans hrun
    rw [eq_of_unchanged hmemory hsame, hsame, Bool.or_false]
  | committed hmemory hcommits _ _ hrun' =>
    cases hrun'.symm.trans hrun
    rw [commits_of_unchanged hclean hcall hmemory hsame] at hcommits
    cases hcommits

/-- **A call that reports no change** makes none, where nothing is pending. -/
theorem eq_of_reportsNoChange (hclean : s.dirty = false)
    (h : call.reportsNoChange (call.run.outcome s).1 = true) : (call.run.outcome s).2 = s := by
  have hcall : call ≠ commit := by
    rintro rfl
    cases h
  cases hrun : call.run s with
  | ok a t =>
    rw [outcome_of_ok hrun] at h ⊢
    have hsame : a.changed = false := by
      cases call <;> first | exact (Bool.not_eq_true' _).mp h | cases h
    exact eq_of_unchangedAnswer hclean hrun hcall hsame
  | error e t =>
    rw [outcome_of_error hrun] at h ⊢
    have hlimit : e.isLimit = true := by
      cases call <;> first | exact h | cases h
    exact eq_of_limit hrun hlimit

end StoreCall

/-! ## Operations -/

/-- The operation keeps the store open, and reports no change. -/
def StoreOperation.reportsNoChange : StoreOperation → Except StoreError StoreReply → Bool
  | .call c, .ok (.answer a) => c.reportsNoChange (.ok a)
  | .call c, .error e => c.reportsNoChange (.error e)
  | .get _, _ | .seek .., _ => true
  | _, _ => false

namespace DurableStore

variable {s : DurableStore}

/-- An operation that reports no change has made none. -/
theorem operate_of_quiet (hclean : s.dirty = false) {op : StoreOperation}
    (h : op.reportsNoChange ((operate op).outcome s).1 = true) : ((operate op).outcome s).2 = s := by
  cases op with
  | get key => rfl
  | seek comparison reference moves => rfl
  | close path options =>
    cases hreply : ((operate (.close path options)).outcome s).1 <;> rw [hreply] at h <;> cases h
  | drop path options =>
    cases hreply : ((operate (.drop path options)).outcome s).1 <;> rw [hreply] at h <;> cases h
  | call c =>
    have hcall : c.reportsNoChange (c.run.outcome s).1 = true → (c.run.outcome s).2 = s :=
      StoreCall.eq_of_reportsNoChange hclean
    cases hrun : c.run s with
    | ok a t =>
      have hoperate : operate (.call c) s = .ok (.answer a) t := bind_ok hrun
      rw [outcome_of_ok hrun] at hcall
      rw [outcome_of_ok hoperate] at h ⊢
      exact hcall h
    | error e t =>
      have hoperate : operate (.call c) s = .error e t := bind_error hrun
      rw [outcome_of_error hrun] at hcall
      rw [outcome_of_error hoperate] at h ⊢
      exact hcall h

/-- **Operations that report no change** make none, in whatever order. -/
theorem replies_of_quiet (hclean : s.dirty = false) {ops : List StoreOperation}
    (h : List.Forall₂ (fun op reply => op.reportsNoChange reply = true) ops
      (replies operate ops s).1) :
    (replies operate ops s).2 = s := by
  induction ops with
  | nil => rfl
  | cons op ops ih =>
    obtain ⟨hfirst, hrest⟩ := List.forall₂_cons.mp h
    have hstep := operate_of_quiet hclean hfirst
    change List.Forall₂ _ ops (replies operate ops ((operate op).outcome s).2).1 at hrest
    show (replies operate ops ((operate op).outcome s).2).2 = s
    rw [hstep] at hrest ⊢
    exact ih hrest

end DurableStore

end PagedTables
