/-
# What tables rely on

A store does to its contents what the same call does to entries in memory, or it fails and leaves
them as they are. Nothing else about a store matters to the tables kept in it, so a store in
memory and one in a file serve them alike; the latter may fail when it commits.

* `Store.Lawful` : a store whose calls end like those in memory, up to some failures;
* `Store.Faithful` : the same, also for making changes durable;
* `MemoryStore.lawful` : a store in memory has no failures of its own;
* `DurableStore.lawful` : a store in a file, in any state of the file.
-/
import Mathlib
import PagedTables.Proofs.OrderedMap
import PagedTables.Proofs.Store.Calls

namespace PagedTables

open PagedTables.Action

/-! ## Laws -/

namespace Store

/-- How a call of a store ends, given what the call does to entries in memory: it ends alike, or
the store fails, which leaves the contents. -/
inductive Obeys {κ α : Type} [Store κ] (Fails : StoreError → Prop) (s : κ) :
    Except StoreError (α × MemoryStore) → EStateM.Result StoreError κ α → Prop
  /-- The call does what it does in memory. -/
  | done {a : α} {m : MemoryStore} {t : κ} (hcontents : contents t = m) :
      Obeys Fails s (.ok (a, m)) (.ok a t)
  /-- The call is refused as it is in memory. -/
  | refused {e : StoreError} {t : κ} (hcontents : contents t = contents s) :
      Obeys Fails s (.error e) (.error e t)
  /-- The store fails. -/
  | failed {r : Except StoreError (α × MemoryStore)} {e : StoreError} {t : κ} (he : Fails e)
      (hcontents : contents t = contents s) : Obeys Fails s r (.error e t)

/-- The calls of a store end like those in memory, or fail with certain errors. -/
structure Lawful (κ : Type) [Store κ] (Fails : StoreError → Prop) : Prop where
  update : ∀ (s : κ) (key value : Bytes) (mode : WriteMode),
    Obeys Fails s ((contents s).put key value mode) (Store.update key value mode s)
  delete : ∀ (s : κ) (key : Bytes),
    Obeys Fails s (.ok (((contents s).get? key).isSome, (contents s).erase key))
      (Store.delete key s)

/-- So does making changes durable, which has no effect in memory. -/
structure Faithful (κ : Type) [Store κ] (Fails : StoreError → Prop) : Prop
    extends Lawful κ Fails where
  flush : ∀ s : κ, Obeys Fails s (.ok ((), contents s)) (Store.flush s)

end Store

/-! ## Stores in memory -/

namespace MemoryStore

/-- Removing what is not there changes nothing. -/
theorem erase_of_get? {m : MemoryStore} {key : Bytes} (h : m.get? key = none) :
    m.erase key = m := by
  rw [erase, OrderedMap.erase_of_lookup h]

/-- Storing an entry and putting back what was there changes nothing. -/
theorem restore_load (m : MemoryStore) (key value : Bytes) :
    (m.load key value).restore key (m.get? key) = m := by
  cases hget : m.get? key with
  | none => simp only [restore, load, erase, OrderedMap.erase_insert value hget]
  | some old =>
    simp only [restore, load, OrderedMap.insert_insert, OrderedMap.insert_of_lookup hget]

/-- Removing an entry and putting it back changes nothing. -/
theorem restore_erase {m : MemoryStore} {key value : Bytes} (h : m.get? key = some value) :
    (m.erase key).restore key (some value) = m := by
  have hback : (m.entries.erase key).insert key value = m.entries := by
    apply OrderedMap.ext_lookup
    intro k
    rw [OrderedMap.lookup_insert, OrderedMap.lookup_erase]
    split
    · next heq =>
      rw [← Std.LawfulEqCmp.eq_of_compare heq]
      exact h.symm
    · rfl
  simp only [restore, load, erase, hback]

/-- What is written in any case is there afterwards. -/
theorem put_upsert (m : MemoryStore) (key value : Bytes) :
    ∃ outcome, m.put key value .upsert =
      (m.checkEntry key value).map fun _ => (outcome, m.load key value) := by
  unfold put
  cases m.checkEntry key value with
  | error e => exact ⟨.unchanged, rfl⟩
  | ok _ =>
    cases hget : m.get? key with
    | none => exact ⟨⟨true, true⟩, rfl⟩
    | some current =>
      by_cases hsame : current = value
      · subst hsame
        refine ⟨.unchanged, ?_⟩
        rw [load, OrderedMap.insert_of_lookup hget]
        simp [Except.map]
      · refine ⟨⟨false, true⟩, ?_⟩
        simp [Except.map, hsame]

/-- What is written as new is there afterwards if the key was free. -/
theorem put_insert {m : MemoryStore} {key : Bytes} (h : m.get? key = none) (value : Bytes) :
    m.put key value .insert =
      (m.checkEntry key value).map fun _ => (⟨true, true⟩, m.load key value) := by
  unfold put
  rw [h]
  cases m.checkEntry key value <;> rfl

/-- **A store in memory** has no failures of its own. -/
theorem lawful : Store.Lawful MemoryStore fun _ => False where
  update := by
    intro m key value mode
    show Store.Obeys _ m (m.put key value mode) (MemoryStore.update key value mode m)
    unfold MemoryStore.update
    rw [Action.get_bind]
    cases m.put key value mode with
    | error e => exact .refused rfl
    | ok r => exact .done rfl
  delete := by
    intro m key
    show Store.Obeys _ m (.ok ((m.get? key).isSome, m.erase key)) (MemoryStore.delete key m)
    unfold MemoryStore.delete
    rw [Action.get_bind]
    cases hget : m.get? key with
    | none => exact .done (erase_of_get? hget).symm
    | some old => exact .done rfl

/-- A store in memory is faithful, and has no failures of its own. -/
theorem faithful : Store.Faithful MemoryStore fun _ => False where
  toLawful := lawful
  flush := fun _ => .done rfl

end MemoryStore

/-! ## Stores in a file -/

namespace DurableStore

/-- The stores have the same entries. -/
def SameIndex (s t : DurableStore) : Prop :=
  t.index = s.index

instance : Std.Refl SameIndex :=
  ⟨fun _ => rfl⟩

instance : Trans SameIndex SameIndex SameIndex :=
  ⟨fun hst htu => htu.trans hst⟩

section SameIndex

variable {α : Type} {s : DurableStore}

theorem sameIndex_onPages (act : Action StoreError PageFile α) :
    Keeps SameIndex (onPages act) s :=
  Keeps.part (T := fun _ _ => True) trivial fun _ _ => rfl

theorem sameIndex_onPool (act : Action StoreError (PagePool PageFile) α) :
    Keeps SameIndex (onPool act) s :=
  Keeps.part (T := fun _ _ => True) trivial fun _ _ => rfl

theorem sameIndex_syncIfAsked : Keeps SameIndex syncIfAsked s := by
  refine .read ?_
  split
  · exact sameIndex_onPages _
  · exact .answer _

theorem sameIndex_publish (head : PageId) : Keeps SameIndex (publish head) s := by
  refine .read ?_
  refine (sameIndex_onPages _).bind fun _ _ _ => ?_
  refine sameIndex_syncIfAsked.bind fun _ _ _ => ?_
  refine (sameIndex_onPages _).bind fun _ _ _ => ?_
  refine (sameIndex_onPages _).bind fun _ _ _ => ?_
  exact sameIndex_syncIfAsked.bind fun _ _ _ => .change rfl

/-- Preparing the pages of a commit leaves the entries. -/
theorem sameIndex_stage : Keeps SameIndex stage s := by
  refine .read ?_
  refine (sameIndex_onPool _).bind fun ids _ _ => ?_
  refine (sameIndex_onPages _).bind fun _ _ _ => ?_
  exact (sameIndex_onPool _).bind fun _ _ _ => .answer ids

/-- Writing a snapshot leaves the entries. -/
theorem sameIndex_writeSnapshot : Keeps SameIndex writeSnapshot s :=
  sameIndex_stage.bind fun _ _ _ => (sameIndex_publish _).bind fun _ _ _ => .change rfl

/-- A commit leaves the entries, also if it fails. -/
theorem sameIndex_commit : Keeps SameIndex commit s := by
  refine .read ?_
  cases hrun : writeSnapshot s with
  | ok a t =>
    have ht : s.SameIndex t := sameIndex_writeSnapshot.ok hrun
    exact .of_ok (bind_ok (attempt_ok hrun)) ht
  | error e t =>
    have ht : s.SameIndex t := sameIndex_writeSnapshot.error hrun
    exact .of_error (bind_ok (attempt_error hrun)) ht

end SameIndex

/-- A change of a key is kept, or undone if it cannot be committed. -/
theorem afterChange_obeys {α : Type} {s : DurableStore} {n : MemoryStore} {key : Bytes}
    {previous : Option Bytes} (a : α) (hback : n.restore key previous = s.index) :
    Store.Obeys (fun _ => True) s (.ok (a, n))
      ((afterChange key previous >>= fun _ => pure a) { s with index := n }) := by
  rcases afterChange_cases key previous { s with index := n } with
    ⟨-, hrun⟩ | ⟨-, ⟨t, hcommit, hrun⟩ | ⟨e, w, hcommit, hrun⟩⟩
  · rw [bind_ok hrun]
    exact .done rfl
  · rw [bind_ok hrun]
    exact .done (sameIndex_commit.ok hcommit)
  · rw [bind_error hrun]
    have hindex : w.index = n := sameIndex_commit.error hcommit
    refine .failed trivial ?_
    show w.index.restore key previous = s.index
    rw [hindex, hback]

/-- **A store in a file** may fail when it commits, and has the contents of before then. -/
theorem lawful : Store.Lawful DurableStore fun _ => True where
  update := by
    intro s key value mode
    show Store.Obeys _ s (s.index.put key value mode) (DurableStore.update key value mode s)
    rcases s.index.put_cases key value mode with ⟨e, -, hput⟩ | hput | ⟨added, hput⟩
    · rw [hput, update_of_refused hput]
      exact .refused rfl
    · rw [hput, update_of_unchanged hput rfl]
      exact .done rfl
    · rw [hput, update_of_changed hput rfl]
      exact afterChange_obeys _ (MemoryStore.restore_load s.index key value)
  delete := by
    intro s key
    show Store.Obeys _ s (.ok ((s.index.get? key).isSome, s.index.erase key))
      (DurableStore.delete key s)
    cases hget : s.index.get? key with
    | none =>
      rw [delete_of_absent hget]
      exact .done (MemoryStore.erase_of_get? hget).symm
    | some old =>
      rw [delete_of_present hget]
      exact afterChange_obeys _ (MemoryStore.restore_erase hget)

/-- A store in a file is faithful: it may fail in any way, which leaves the entries. -/
theorem faithful : Store.Faithful DurableStore fun _ => True where
  toLawful := lawful
  flush := by
    intro s
    have hflush : Keeps SameIndex DurableStore.flush s := by
      refine .read ?_
      split
      · exact sameIndex_commit
      · exact .answer _
    show Store.Obeys _ s (.ok ((), s.index)) (DurableStore.flush s)
    cases hrun : DurableStore.flush s with
    | ok a t => exact .done (hflush.ok hrun)
    | error e t => exact .failed trivial (hflush.error hrun)

end DurableStore

end PagedTables
