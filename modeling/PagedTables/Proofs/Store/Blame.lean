/-
# What a commit reports

A commit works on pages, not on entries. Whatever its file holds, and whatever the disk does, it
fails with an error of the file, of a page, or of stored bytes, and never with one that refuses an
entry. So a call that reports such a refusal has not tried to commit.

* `StoreError.isOfPages` : the errors that work on pages may end with;
* `BlamesPages` : an action that ends with no other error;
* `DurableStore.blamesPages_commit` : a commit is one;
* `StoreCall.eq_of_limit` : a call that reports a refusal has done nothing.
-/
import PagedTables.Proofs.Store.Refinement

namespace PagedTables

open PagedTables.Action

/-! ## Errors of pages -/

/-- The errors of the file, of numbers and sizes of pages, and of stored bytes. -/
def StoreError.isOfPages : StoreError → Bool
  | io _ | pageNotFound _ | wrongPageSize .. | damaged _ => true
  | _ => false

/-- An error of pages is none that refuses an entry. -/
theorem StoreError.isLimit_of_isOfPages {e : StoreError} (h : e.isOfPages = true) :
    e.isLimit = false := by
  cases e <;> first | rfl | cases h

/-- From every state, the action fails with an error of pages if it fails. -/
def BlamesPages {σ α : Type} (act : Action StoreError σ α) : Prop :=
  ∀ ⦃s e t⦄, act s = .error e t → e.isOfPages = true

namespace BlamesPages

variable {σ τ α β : Type} {act : Action StoreError σ α} {rest : α → Action StoreError σ β}

theorem answer (a : α) : BlamesPages (pure a : Action StoreError σ α) := nofun

theorem fail {e : StoreError} (h : e.isOfPages = true) :
    BlamesPages (throw e : Action StoreError σ α) := by
  rintro _ _ _ ⟨⟩
  exact h

theorem change (f : σ → σ) : BlamesPages (modify f : Action StoreError σ PUnit) := nofun

theorem replace (t : σ) : BlamesPages (set t : Action StoreError σ PUnit) := nofun

theorem bind (h : BlamesPages act) (hrest : ∀ a, BlamesPages (rest a)) :
    BlamesPages (act >>= rest) := by
  intro s e t hrun
  rcases cases_of_bind_error hrun with hact | ⟨a, u, -, hrun⟩
  · exact h hact
  · exact hrest a hrun

theorem read {rest : σ → Action StoreError σ β} (hrest : ∀ s, BlamesPages (rest s)) :
    BlamesPages (get >>= rest) :=
  .bind nofun hrest

theorem part {part : σ → τ} {put : σ → τ → σ} {act : Action StoreError τ α}
    (h : BlamesPages act) : BlamesPages (within part put id act) := by
  intro s e t hrun
  unfold within at hrun
  cases hact : act (part s) with
  | ok a u =>
    rw [hact] at hrun
    cases hrun
  | error e' u =>
    rw [hact] at hrun
    cases hrun
    exact h hact

end BlamesPages

/-! ## Disks -/

namespace Disk

theorem blamesPages_read (off len : Nat) : BlamesPages (read off len) := by
  refine .read fun d => ?_
  split
  · exact .answer _
  · exact .fail rfl

theorem blamesPages_nextFault : BlamesPages nextFault := by
  refine .read fun d => ?_
  split
  · exact .answer _
  · exact .bind (.replace _) fun _ => .answer _

theorem blamesPages_write (off : Nat) (data : Bytes) : BlamesPages (write off data) := by
  refine blamesPages_nextFault.bind fun f => ?_
  cases f with
  | none => exact .change _
  | lost => exact .fail rfl
  | landed => exact .bind (.change _) fun _ => .fail rfl

theorem blamesPages_sync : BlamesPages sync := by
  refine blamesPages_nextFault.bind fun f => ?_
  split
  · exact .fail rfl
  · exact .answer _

end Disk

/-! ## Page files -/

namespace PageFile

theorem blamesPages_load (id : PageId) : BlamesPages (load id) := by
  refine .read fun f => ?_
  split
  · split
    · exact .answer _
    · refine .bind (.part (Disk.blamesPages_read _ _)) fun _ => ?_
      exact .bind (.change _) fun _ => .answer _
  · exact .fail rfl

theorem blamesPages_read (id : PageId) : BlamesPages (read id) :=
  .bind (blamesPages_load id) fun _ => .answer _

theorem blamesPages_change (id : PageId) (edit : Bytes → Bytes) : BlamesPages (change id edit) :=
  .bind (blamesPages_load id) fun _ => .change _

theorem blamesPages_append (page : Bytes) : BlamesPages (append page) := by
  refine .read fun f => ?_
  split
  · exact .bind (.replace _) fun _ => .answer _
  · exact .fail rfl

theorem blamesPages_writeAt (id : PageId) (bytes : Bytes) : BlamesPages (writeAt id bytes) :=
  .read fun _ => .part (Disk.blamesPages_write _ _)

theorem blamesPages_writeBack (pages : List (PageId × CachedPage)) :
    BlamesPages (writeBack pages) := by
  induction pages with
  | nil => exact .answer _
  | cons x rest ih =>
    exact .bind (blamesPages_writeAt _ _) fun _ => .bind (.change _) fun _ => ih

theorem blamesPages_flushPages : BlamesPages flushPages :=
  .read fun _ => .bind (blamesPages_writeBack _) fun _ => .answer _

theorem blamesPages_flushMeta : BlamesPages flushMeta := by
  refine .read fun f => ?_
  split
  · exact .bind (.change _) fun _ => blamesPages_writeAt _ _
  · exact .answer _

end PageFile

/-! ## Free pages -/

namespace PagePool

theorem blamesPages_pop : BlamesPages (pop : Action StoreError (PagePool PageFile) _) := by
  refine .read fun p => ?_
  simp only
  split
  · exact .answer _
  · refine .bind (.part (PageFile.blamesPages_read _)) fun node => ?_
    split
    · exact .fail rfl
    · split
      · exact .bind (.change _) fun _ => .answer _
      · split
        · exact .fail rfl
        · exact .bind (.change _) fun _ => .answer _

theorem blamesPages_appendZeros :
    BlamesPages (appendZeros : Action StoreError (PagePool PageFile) _) :=
  .read fun _ => .part (PageFile.blamesPages_append _)

theorem blamesPages_modify (id : PageId) (edit : Bytes → Bytes) :
    BlamesPages (onPages (PageStore.modify id edit) : Action StoreError (PagePool PageFile) _) :=
  .part (PageFile.blamesPages_change id edit)

theorem blamesPages_linkNode (next : PageId) (node : Option PageId) :
    BlamesPages (linkNode next node : Action StoreError (PagePool PageFile) _) := by
  refine .read fun p => ?_
  refine .bind (blamesPages_modify _ _) fun _ => .bind (blamesPages_modify _ _) fun _ => ?_
  refine .bind (.change _) fun _ => ?_
  cases node with
  | none => exact .answer _
  | some node => exact .bind (blamesPages_modify _ _) fun _ => .change _

theorem blamesPages_addNode : BlamesPages (addNode : Action StoreError (PagePool PageFile) _) := by
  rw [addNode_eq]
  refine .bind blamesPages_pop fun ⟨item, node⟩ => ?_
  cases item with
  | some id => exact .bind (.answer id) fun next => blamesPages_linkNode next node
  | none => exact .bind blamesPages_appendZeros fun next => blamesPages_linkNode next node

theorem blamesPages_pushTail (item : PageId) :
    BlamesPages (pushTail item : Action StoreError (PagePool PageFile) _) := by
  refine .read fun p => .bind (blamesPages_modify _ _) fun _ => .bind (.change _) fun _ => ?_
  split
  · exact blamesPages_addNode
  · exact .answer _

theorem blamesPages_pushAll (items : List PageId) :
    BlamesPages (pushAll items : Action StoreError (PagePool PageFile) _) := by
  induction items with
  | nil => exact .answer _
  | cons item rest ih => exact .bind (blamesPages_pushTail item) fun _ => ih

theorem blamesPages_popHead : BlamesPages (popHead : Action StoreError (PagePool PageFile) _) := by
  refine .bind blamesPages_pop fun ⟨item, reclaimed⟩ => ?_
  cases reclaimed with
  | none => exact .answer _
  | some node => exact .bind (blamesPages_pushTail node) fun _ => .answer _

theorem blamesPages_allocate :
    BlamesPages (allocate : Action StoreError (PagePool PageFile) _) := by
  refine .bind blamesPages_popHead fun item => ?_
  cases item with
  | some id => exact .bind (blamesPages_modify _ _) fun _ => .answer _
  | none => exact blamesPages_appendZeros

theorem blamesPages_allocateMany (n : Nat) :
    BlamesPages (allocateMany n : Action StoreError (PagePool PageFile) _) := by
  induction n with
  | zero => exact .answer _
  | succ n ih => exact .bind blamesPages_allocate fun _ => .bind ih fun _ => .answer _

end PagePool

theorem Snapshot.blamesPages_writeChain (ids : List PageId) (payloads : List Bytes) :
    BlamesPages (writeChain ids payloads : Action StoreError PageFile _) := by
  induction ids generalizing payloads with
  | nil => exact .answer _
  | cons id ids ih =>
    cases payloads with
    | nil => exact .answer _
    | cons payload payloads => exact .bind (PageFile.blamesPages_change _ _) fun _ => ih payloads

/-! ## Commits -/

namespace DurableStore

/-- Preparing the pages of a commit only fails with errors of pages. -/
theorem blamesPages_stage : BlamesPages stage := by
  refine .read fun s => .bind (.part (PagePool.blamesPages_allocateMany _)) fun ids => ?_
  refine .bind (.part (Snapshot.blamesPages_writeChain _ _)) fun _ => ?_
  exact .bind (.part (PagePool.blamesPages_pushAll _)) fun _ => .answer _

theorem blamesPages_syncIfAsked : BlamesPages syncIfAsked := by
  refine .read fun s => ?_
  split
  · exact .part (.part Disk.blamesPages_sync)
  · exact .answer _

/-- Publishing a commit only fails with errors of pages. -/
theorem blamesPages_publish (head : PageId) : BlamesPages (publish head) := by
  refine .read fun s => .bind (.part PageFile.blamesPages_flushPages) fun _ => ?_
  refine .bind blamesPages_syncIfAsked fun _ => ?_
  refine .bind (.part (PageFile.blamesPages_change _ _)) fun _ => ?_
  refine .bind (.part PageFile.blamesPages_flushMeta) fun _ => ?_
  exact .bind blamesPages_syncIfAsked fun _ => .change _

theorem blamesPages_writeSnapshot : BlamesPages writeSnapshot :=
  .bind blamesPages_stage fun _ => .bind (blamesPages_publish _) fun _ => .change _

/-- **A commit** reports what is wrong with pages, and nothing else. -/
theorem blamesPages_commit : BlamesPages commit := by
  intro s e t hrun
  unfold commit at hrun
  rw [get_bind] at hrun
  cases hwrite : writeSnapshot s with
  | ok a u =>
    rw [bind_ok (attempt_ok hwrite)] at hrun
    cases hrun
  | error e' u =>
    rw [bind_ok (attempt_error hwrite)] at hrun
    cases hrun
    exact blamesPages_writeSnapshot hwrite

end DurableStore

/-- **A refusal** comes from a call that has done nothing. -/
theorem StoreCall.eq_of_limit {call : StoreCall} {s t : DurableStore} {e : StoreError}
    (hrun : call.run s = .error e t) (hlimit : e.isLimit = true) : t = s := by
  rcases error_cases hrun with ⟨-, rfl⟩ | ⟨-, u, w, -, -, hcommit, -⟩
  · rfl
  · rw [StoreError.isLimit_of_isOfPages (DurableStore.blamesPages_commit hcommit)] at hlimit
    cases hlimit

end PagedTables
