/-
# Calls that fail

A commit can fail anywhere: at a page that can no longer be read, at a damaged node of the free
list, at a write or a sync that reports an error. Whatever was done until then, free list and
pages are those of the last commit afterwards, and a change of a key is taken back.

* `DurableStore.Drafts` : between the states before and during a commit;
* `DurableStore.commit_error` : what a failed commit leaves;
* `DurableStore.Alive` : the states of a store, whatever happens to its file;
* `DurableStore.Alive.undone_of_failed` : a call that fails is undone.
-/
import PagedTables.Proofs.FreeList.Frugal
import PagedTables.Proofs.Store.Lawful
import PagedTables.Proofs.Store.Opened

namespace PagedTables

open PagedTables.Action

/-- Filling pages adds none. -/
theorem Snapshot.sameCount_writeChain (ids : List PageId) (payloads : List Bytes)
    {f : PageFile} : Keeps PageFile.SameCount (writeChain ids payloads) f := by
  induction ids generalizing payloads f with
  | nil => exact .answer _
  | cons id ids ih =>
    cases payloads with
    | nil => exact .answer _
    | cons data payloads =>
      exact (PageFile.sameCount_change id _).bind fun _ _ _ => ih payloads

namespace DurableStore

variable {α : Type} {s t u w : DurableStore} {e : StoreError}

/-! ## During a commit -/

/-- Only the pages may differ, not their number. -/
structure Rewrites (s t : DurableStore) : Prop where
  rest_eq : t = { s with pages := t.pages }
  sameCount : s.pages.SameCount t.pages

/-- Only free list and pages may differ, and pages are added sparingly. -/
structure Drafts (s t : DurableStore) : Prop where
  rest_eq : t = { s with free := t.free, pages := t.pages }
  frugal : s.pool.Frugal t.pool

instance : Std.Refl Rewrites :=
  ⟨fun _ => ⟨rfl, rfl⟩⟩

theorem Rewrites.trans (hst : s.Rewrites t) (htu : t.Rewrites u) : s.Rewrites u where
  rest_eq := by rw [htu.rest_eq, hst.rest_eq]
  sameCount := htu.sameCount.trans hst.sameCount

instance : Trans Rewrites Rewrites Rewrites :=
  ⟨Rewrites.trans⟩

theorem Drafts.trans (hst : s.Drafts t) (htu : t.Drafts u) : s.Drafts u where
  rest_eq := by rw [htu.rest_eq, hst.rest_eq]
  frugal := hst.frugal.trans htu.frugal

instance : Trans Drafts Drafts Drafts :=
  ⟨Drafts.trans⟩

/-- Rewriting pages is a draft that adds none. -/
theorem Rewrites.drafts (h : s.Rewrites t) : s.Drafts t := by
  have hrest := h.rest_eq
  have hfree : t.free = s.free := by rw [hrest]
  refine ⟨by rw [hrest], .of_head_eq ?_ ?_ h.sameCount⟩
  · exact congrArg (fun l : FreeList => l.headSeq) hfree
  · exact congrArg FreeList.watermark hfree

theorem rewrites_onPages {act : Action StoreError PageFile α}
    (h : Keeps PageFile.SameCount act s.pages) : Keeps Rewrites (onPages act) s :=
  Keeps.part h fun _ ht => ⟨rfl, ht⟩

/-- A frugal action on free list and pages is a draft. -/
theorem drafts_onPool {act : Action StoreError (PagePool PageFile) α}
    (h : Keeps PagePool.Frugal act s.pool) : Keeps Drafts (onPool act) s :=
  Keeps.part h fun _ ht => ⟨rfl, ht⟩

/-- Preparing the pages of a commit is a draft. -/
theorem drafts_stage : Keeps Drafts stage s := by
  refine .read ?_
  refine (drafts_onPool (PagePool.frugal_allocateMany _)).bind fun ids _ _ => ?_
  refine ((rewrites_onPages (Snapshot.sameCount_writeChain _ _)).mono fun _ h => h.drafts).bind
    fun _ _ _ => ?_
  refine (drafts_onPool (PagePool.frugal_pushAll _)).bind fun _ u _ => ?_
  exact .of_ok rfl (Std.Refl.refl (r := Rewrites) u).drafts

/-- Syncing touches no page in memory. -/
theorem samePages_syncIfAsked :
    Keeps (fun s t => t = { s with pages := t.pages } ∧ s.pages.SamePages t.pages)
      syncIfAsked s := by
  refine .read ?_
  split
  · exact Keeps.part PageFile.samePages_sync fun _ h => ⟨rfl, h⟩
  · exact .of_ok rfl ⟨rfl, rfl⟩

theorem rewrites_syncIfAsked : Keeps Rewrites syncIfAsked s :=
  samePages_syncIfAsked.mono fun _ ht => ⟨ht.1, ht.2.sameCount⟩

/-- Writing the pages of a commit rewrites them. -/
theorem rewrites_publishPages (description : MetaPage) :
    Keeps Rewrites (publishPages description) s := by
  refine (rewrites_onPages PageFile.sameCount_flushPages).bind fun _ _ _ => ?_
  refine rewrites_syncIfAsked.bind fun _ _ _ => ?_
  refine (rewrites_onPages (PageFile.sameCount_change _ _)).bind fun _ _ _ => ?_
  refine (rewrites_onPages PageFile.sameCount_flushMeta).bind fun _ _ _ => ?_
  exact rewrites_syncIfAsked

/-- Once everything is written, no page is left changed. -/
theorem clean_of_publishPages {description : MetaPage}
    (h : publishPages description s = .ok () t) : t.pages.Clean := by
  obtain ⟨_, s₁, hflush, h⟩ := exists_of_bind_ok h
  obtain ⟨_, s₂, hsync, h⟩ := exists_of_bind_ok h
  obtain ⟨_, s₃, hchange, h⟩ := exists_of_bind_ok h
  obtain ⟨_, s₄, hmeta, hsync'⟩ := exists_of_bind_ok h
  obtain ⟨f₁, hrun₁, rfl⟩ := exists_of_within_ok hflush
  obtain ⟨f₃, hrun₃, rfl⟩ := exists_of_within_ok hchange
  obtain ⟨f₄, hrun₄, rfl⟩ := exists_of_within_ok hmeta
  have hbehind := (PageFile.cleanBehindMeta_of_flushPages hrun₁).of_cache_eq
    (samePages_syncIfAsked.ok hsync).2.cache_eq
  have hclean := (hbehind.change hrun₃).flushMeta hrun₄
  intro id p hp
  rw [(samePages_syncIfAsked.ok hsync').2.cache_eq] at hp
  exact hclean id p hp

/-! ## The end of a commit -/

/-- A snapshot that cannot be written leaves free list and pages as far as they got. -/
theorem drafts_of_writeSnapshot (h : writeSnapshot s = .error e t) : s.Drafts t := by
  rcases cases_of_bind_error h with hstage | ⟨ids, u, hstage, h⟩
  · exact drafts_stage.error hstage
  · rcases cases_of_bind_error h with hpublish | ⟨_, v, -, h⟩
    · rw [publish_eq, get_bind] at hpublish
      rcases cases_of_bind_error hpublish with hpages | ⟨_, v, -, h⟩
      · exact (drafts_stage.ok hstage).trans ((rewrites_publishPages _).error hpages).drafts
      · cases h
    · cases h

/-- A commit that fails puts back the free list, and drops what was not written. -/
theorem commit_error (h : commit s = .error e t) : ∃ u, s.Drafts u ∧
    t = { s with pages := u.pages.discardUncommitted s.committedPages } := by
  unfold commit at h
  rw [get_bind] at h
  cases hwrite : writeSnapshot s with
  | ok a u =>
    rw [bind_ok (attempt_ok hwrite)] at h
    cases h
  | error e' u =>
    rw [bind_ok (attempt_error hwrite)] at h
    have hdrafts := drafts_of_writeSnapshot hwrite
    injection h with _ htu
    refine ⟨u, hdrafts, ?_⟩
    rw [← htu, hdrafts.rest_eq]

/-- A commit that succeeds leaves no changed page, and has committed all of them. -/
theorem commit_ok (h : commit s = .ok () t) : ∃ ids u, stage s = .ok ids u ∧ t.snapshot = ids ∧
    t.pages.pageCount = u.pages.pageCount ∧ t.committedPages = t.pages.pageCount % 2 ^ 64 ∧
    t.pages.Clean ∧ t.dirty = false := by
  unfold commit at h
  rw [get_bind] at h
  cases hwrite : writeSnapshot s with
  | error e' u =>
    rw [bind_ok (attempt_error hwrite)] at h
    cases h
  | ok a w =>
    rw [bind_ok (attempt_ok hwrite)] at h
    obtain ⟨ids, u, hstage, h'⟩ := exists_of_bind_ok hwrite
    obtain ⟨_, x, hpublish, h'⟩ := exists_of_bind_ok h'
    rw [publish_eq, get_bind] at hpublish
    obtain ⟨_, v, hpages, hpublish⟩ := exists_of_bind_ok hpublish
    injection hpublish with _ hx
    injection h' with _ hw
    injection h with _ ht
    subst ht hw hx
    have hcount := ((rewrites_publishPages _).ok hpages).sameCount
    refine ⟨ids, u, hstage, rfl, hcount, ?_, (clean_of_publishPages hpages).evictClean, rfl⟩
    show (UInt64.ofNat u.pages.pageCount).toNat = v.pages.pageCount % 2 ^ 64
    rw [UInt64.toNat_ofNat', hcount]

/-! ## The states of a store -/

/-- The states of a store in a file, whatever happens to the file meanwhile: others may change
its bytes, and any write or sync may fail. Page numbers are 64-bit words, so there cannot be
more pages than these. -/
inductive Alive : DurableStore → Prop
  /-- A file is opened or created. -/
  | opened {path : String} {status : FileStatus} {options : StoreOptions} {s : DurableStore} :
      «open» path status options = .ok s → Alive s
  /-- A call succeeds. -/
  | called {s t : DurableStore} {a : StoreAnswer} (call : StoreCall) : Alive s →
      call.run s = .ok a t → t.pages.pageCount < 2 ^ 64 → Alive t
  /-- A call fails. -/
  | failed {s t : DurableStore} {e : StoreError} (call : StoreCall) : Alive s →
      call.run s = .error e t → Alive t
  /-- The file changes behind the store, or comes to meet other faults. -/
  | disturbed {s : DurableStore} (disk : Disk) : Alive s →
      Alive { s with pages := { s.pages with disk := disk } }

/-- No page is changed, and all of them are committed. -/
structure Idle (s : DurableStore) : Prop where
  clean : s.pages.Clean
  committed_eq : s.committedPages = s.pages.pageCount
  count_pos : 0 < s.pages.pageCount

/-- From `s` to `t` entries, dirty flag, snapshot, free list and the number of pages are the
same, and neither has pages that were changed. -/
structure Undone (s t : DurableStore) : Prop where
  rest_eq : t = { s with pages := t.pages }
  pageCount_eq : t.pages.pageCount = s.pages.pageCount
  dirtyPages_before : s.pages.dirtyPages = []
  dirtyPages_after : t.pages.dirtyPages = []

/-- Nothing is left to undo in an idle store. -/
theorem Idle.undone_self (hs : s.Idle) : s.Undone s :=
  ⟨rfl, rfl, PageFile.dirtyPages_eq_nil.mpr hs.clean, PageFile.dirtyPages_eq_nil.mpr hs.clean⟩

/-- A store in which all was undone is idle. -/
theorem Undone.idle (h : s.Undone t) (hs : s.Idle) : t.Idle := by
  refine ⟨PageFile.dirtyPages_eq_nil.mp h.dirtyPages_after, ?_, ?_⟩
  · rw [h.rest_eq]
    exact hs.committed_eq.trans h.pageCount_eq.symm
  · rw [h.pageCount_eq]
    exact hs.count_pos

/-- **A failed commit** is undone, whether it failed in memory or in the file. -/
theorem Idle.undone_of_commit (hs : s.Idle) (h : commit s = .error e t) : s.Undone t := by
  obtain ⟨u, hdrafts, ht⟩ := commit_error h
  have hle : s.pages.pageCount ≤ u.pages.pageCount := hdrafts.frugal.pageCount_le
  subst ht
  refine ⟨rfl, ?_, PageFile.dirtyPages_eq_nil.mpr hs.clean,
    PageFile.dirtyPages_eq_nil.mpr (PageFile.clean_discardUncommitted _)⟩
  show min u.pages.pageCount s.committedPages = s.pages.pageCount
  rw [hs.committed_eq]
  exact Nat.min_eq_right hle

/-! ## Calls -/

section Calls

variable (hs : s.Idle) (hsaved : s.options.autoCommit = true → s.dirty = false)
include hs hsaved

/-- A change of a key that cannot be committed is taken back. -/
theorem Idle.undone_of_afterChange {n : MemoryStore} {key : Bytes} {previous : Option Bytes}
    (hback : n.restore key previous = s.index)
    (h : afterChange key previous { s with index := n } = .error e t) : s.Undone t := by
  rcases afterChange_cases key previous { s with index := n } with
    ⟨-, hrun⟩ | ⟨hauto, ⟨u, -, hrun⟩ | ⟨e', w, hcommit, hrun⟩⟩
  · rw [hrun] at h
    cases h
  · rw [hrun] at h
    cases h
  · rw [hrun] at h
    injection h with _ ht
    have hidle : Idle { s with index := n, dirty := true } := ⟨hs.clean, hs.committed_eq, hs.count_pos⟩
    obtain ⟨hrest, hcount, -, hafter⟩ := hidle.undone_of_commit hcommit
    generalize w.pages = f at hrest hcount hafter
    subst hrest ht
    refine ⟨?_, hcount, PageFile.dirtyPages_eq_nil.mpr hs.clean, hafter⟩
    show { s with pages := f, index := n.restore key previous, dirty := false } =
      { s with pages := f }
    rw [hback, ← hsaved hauto]

/-- **A write that fails** is undone. -/
theorem Idle.undone_of_update {key value : Bytes} {mode : WriteMode}
    (h : update key value mode s = .error e t) : s.Undone t := by
  rcases s.index.put_cases key value mode with ⟨e', -, hput⟩ | hput | ⟨added, hput⟩
  · rw [update_of_refused hput] at h
    injection h with _ hst
    exact hst ▸ hs.undone_self
  · rw [update_of_unchanged hput rfl] at h
    cases h
  · rw [update_of_changed hput rfl] at h
    rcases cases_of_bind_error h with h | ⟨_, u, -, h⟩
    · exact hs.undone_of_afterChange hsaved (MemoryStore.restore_load s.index key value) h
    · cases h

/-- **A removal that fails** is undone. -/
theorem Idle.undone_of_delete {key : Bytes} (h : delete key s = .error e t) : s.Undone t := by
  cases hget : s.index.get? key with
  | none =>
    rw [delete_of_absent hget] at h
    cases h
  | some value =>
    rw [delete_of_present hget] at h
    rcases cases_of_bind_error h with h | ⟨_, u, -, h⟩
    · exact hs.undone_of_afterChange hsaved (MemoryStore.restore_erase hget) h
    · cases h

omit hsaved in
/-- **A flush that fails** is undone. -/
theorem Idle.undone_of_flush (h : flush s = .error e t) : s.Undone t := by
  rw [flush, get_bind] at h
  split at h
  · exact hs.undone_of_commit h
  · cases h

/-- A call that fails is undone. -/
theorem Idle.undone_of_call {call : StoreCall} (h : call.run s = .error e t) : s.Undone t := by
  cases call with
  | update key value mode =>
    rcases cases_of_bind_error h with h | ⟨_, u, -, h⟩
    · exact hs.undone_of_update hsaved h
    · cases h
  | delete key =>
    rcases cases_of_bind_error h with h | ⟨_, u, -, h⟩
    · exact hs.undone_of_delete hsaved h
    · cases h
  | commit =>
    rcases cases_of_bind_error h with h | ⟨_, u, -, h⟩
    · exact hs.undone_of_commit h
    · cases h
  | flush =>
    rcases cases_of_bind_error h with h | ⟨_, u, -, h⟩
    · exact hs.undone_of_flush h
    · cases h

end Calls

end DurableStore

/-- Where every change is committed at once, a call without a commit changes nothing. -/
theorem StoreCall.unchanged_of_autoCommit {s : DurableStore} {call : StoreCall}
    {a : StoreAnswer} {n : MemoryStore} (hauto : s.options.autoCommit = true)
    (hmemory : call.onMemory s.index = .ok a n) (hcommits : call.commits s = false) :
    a.changed = false := by
  have hwrite : (s.options.autoCommit && call.changes s.index) = false → a.changed = false := by
    rw [hauto, Bool.true_and, changes_of_ok hmemory]
    exact id
  cases call with
  | update key value mode => exact hwrite hcommits
  | delete key => exact hwrite hcommits
  | commit => cases hcommits
  | flush =>
    injection hmemory with ha _
    rw [← ha]
    rfl

namespace DurableStore

/-- Between calls a store is idle, and has nothing to commit if it commits every change. -/
theorem Alive.idle (hs : Alive s) :
    s.Idle ∧ (s.options.autoCommit = true → s.dirty = false) := by
  induction hs with
  | opened hopen =>
    have hopened := opened_of_open hopen
    have hpos := Nat.lt_of_le_of_lt (Nat.zero_le _) hopened.headPage_lt
    exact ⟨⟨hopened.clean, hopened.committed_eq, hpos⟩, fun _ => hopened.saved⟩
  | @called s t a call _ hrun hcount ih =>
    obtain ⟨hs, hsaved⟩ := ih
    rcases StoreCall.ok_cases hrun with ⟨hcommits, hmemory, ht⟩ | ⟨-, u, hsame, -, hcommit⟩
    · rw [ht]
      refine ⟨⟨hs.clean, hs.committed_eq, hs.count_pos⟩, fun hauto => ?_⟩
      have hauto' : s.options.autoCommit = true := hauto
      show (s.dirty || _) = false
      rw [hsaved hauto', StoreCall.unchanged_of_autoCommit hauto' hmemory hcommits]
      rfl
    · obtain ⟨ids, v, hstage, -, hpages, hcommitted, hclean, hdirty⟩ := commit_ok hcommit
      have hle : u.pages.pageCount ≤ v.pages.pageCount := (drafts_stage.ok hstage).frugal.pageCount_le
      have hpos : 0 < u.pages.pageCount := by
        rw [hsame]
        exact hs.count_pos
      exact ⟨⟨hclean, hcommitted.trans (Nat.mod_eq_of_lt hcount), by omega⟩, fun _ => hdirty⟩
  | failed call _ hrun ih =>
    obtain ⟨hs, hsaved⟩ := ih
    have hundone := hs.undone_of_call hsaved hrun
    refine ⟨hundone.idle hs, ?_⟩
    rw [hundone.rest_eq]
    exact hsaved
  | disturbed disk _ ih =>
    obtain ⟨hs, hsaved⟩ := ih
    exact ⟨⟨hs.clean, hs.committed_eq, hs.count_pos⟩, hsaved⟩

/-- **A call that fails changes nothing**, wherever it failed and whatever has happened to the
file: neither entries nor dirty flag, neither snapshot nor free list, nor the number of pages,
and no page is left changed. -/
theorem Alive.undone_of_failed (hs : Alive s) {call : StoreCall} (h : call.run s = .error e t) :
    s.Undone t :=
  hs.idle.1.undone_of_call hs.idle.2 h

/-- The store, whose file was cut off behind its back. -/
def cutOff (s : DurableStore) : DurableStore :=
  { s with pages := { s.pages with disk := { bytes := [] } } }

/-- A page of the free list can no longer be read, when a page was already added. -/
theorem undone_of_cutOff : ∃ s a t e u, «open» "data" .absent { pageSize := 128 } = .ok s ∧
    (StoreCall.update [1] [2] .upsert).run s = .ok a t ∧ t.pages.pageCount < 2 ^ 64 ∧
    (StoreCall.update [1] [3] .upsert).run t.cutOff = .error e u ∧ t.cutOff.Undone u := by
  have hrun : Except.succeeds («open» "data" .absent { pageSize := 128 }) (fun s =>
      (StoreCall.update [1] [2] .upsert).run.succeeds s fun t =>
        decide (t.pages.pageCount < 2 ^ 64) &&
          (StoreCall.update [1] [3] .upsert).run.fails t.cutOff fun _ => true) = true := by
    decide +kernel
  obtain ⟨s, hopen, hrun⟩ := Except.exists_of_succeeds hrun
  obtain ⟨a, t, hcalled, hrun⟩ := exists_of_succeeds hrun
  rw [Bool.and_eq_true, decide_eq_true_iff] at hrun
  obtain ⟨hcount, hrun⟩ := hrun
  obtain ⟨e, u, hfailed, -⟩ := exists_of_fails hrun
  have halive : Alive t.cutOff :=
    ((Alive.opened hopen).called _ hcalled hcount).disturbed { bytes := [] }
  exact ⟨s, a, t, e, u, hopen, hcalled, hcount, hfailed, halive.undone_of_failed hfailed⟩

end DurableStore

end PagedTables
