/-
# Calls of a store

A call to a store in a file does to the entries what the same call does to a store in memory.
Besides that it may commit them.

* `StoreCall` : the calls that may change a store;
* `StoreCall.onMemory` : what a call does to the entries;
* `StoreCall.ends` : a call leaves the file alone, or ends like the commit that it makes.
-/
import PagedTables.Proofs.Action
import PagedTables.Store.Durable

namespace PagedTables

/-! ## Calls -/

/-- A call that may change a store. -/
inductive StoreCall where
  /-- Writes an entry if the mode allows it. -/
  | update (key value : Bytes) (mode : WriteMode)
  /-- Removes a key. -/
  | delete (key : Bytes)
  /-- Commits the entries. -/
  | commit
  /-- Commits the entries if they have changed. -/
  | flush
  deriving DecidableEq, Repr

/-- What a call answers. -/
inductive StoreAnswer where
  /-- What a write has done. -/
  | written (outcome : WriteOutcome)
  /-- Whether there was a key to remove. -/
  | removed (present : Bool)
  /-- Nothing. -/
  | finished
  deriving DecidableEq, Repr

/-- Tells whether the entries have changed. -/
def StoreAnswer.changed : StoreAnswer → Bool
  | written outcome => outcome.updated
  | removed present => present
  | finished => false

namespace StoreCall

/-- Makes the call. -/
def run : StoreCall → Action StoreError DurableStore StoreAnswer
  | update key value mode => return .written (← DurableStore.update key value mode)
  | delete key => return .removed (← DurableStore.delete key)
  | commit => do
    DurableStore.commit
    return .finished
  | flush => do
    DurableStore.flush
    return .finished

/-- What the call does to a store in memory. -/
def onMemory : StoreCall → Action StoreError MemoryStore StoreAnswer
  | update key value mode => return .written (← MemoryStore.update key value mode)
  | delete key => return .removed (← MemoryStore.delete key)
  | commit | flush => return .finished

/-- The contents after the call. -/
def contents (m : MemoryStore) (call : StoreCall) : MemoryStore :=
  (call.onMemory.outcome m).2

/-- Tells whether the call changes the contents. -/
def changes (m : MemoryStore) (call : StoreCall) : Bool :=
  match (call.onMemory.outcome m).1 with
  | .ok a => a.changed
  | .error _ => false

/-- Tells whether the call tries to commit. -/
def commits (s : DurableStore) : StoreCall → Bool
  | commit => true
  | flush => s.dirty
  | call => s.options.autoCommit && call.changes s.index

end StoreCall

namespace DurableStore

variable {s t : DurableStore}

/-! ## Changes -/

/-- The stores differ at most in their entries. -/
def SameFile (s t : DurableStore) : Prop :=
  t = { s with index := t.index, dirty := t.dirty }

theorem SameFile.refl : s.SameFile s := rfl

/-- What a change of a key does besides the change. -/
theorem afterChange_cases (key : Bytes) (previous : Option Bytes) (s : DurableStore) :
    (s.options.autoCommit = false ∧
      afterChange key previous s = .ok () { s with dirty := true }) ∨
    (s.options.autoCommit = true ∧
      ((∃ t, commit { s with dirty := true } = .ok () t ∧ afterChange key previous s = .ok () t) ∨
        ∃ e w, commit { s with dirty := true } = .error e w ∧ afterChange key previous s =
          .error e { w with index := w.index.restore key previous, dirty := false })) := by
  unfold afterChange
  rw [Action.modify_bind, Action.get_bind]
  cases hauto : s.options.autoCommit with
  | false =>
    refine Or.inl ⟨rfl, ?_⟩
    rw [if_neg (by decide)]
    rfl
  | true =>
    refine Or.inr ⟨rfl, ?_⟩
    rw [if_pos rfl]
    cases hcommit : commit { s with dirty := true } with
    | ok a t =>
      refine Or.inl ⟨t, rfl, ?_⟩
      rw [Action.bind_ok (Action.attempt_ok hcommit)]
      rfl
    | error e w =>
      refine Or.inr ⟨e, w, rfl, ?_⟩
      rw [Action.bind_ok (Action.attempt_error hcommit)]
      rfl

/-! ## Writes and removals -/

section Changes

variable {key value : Bytes} {mode : WriteMode} {outcome : WriteOutcome} {n : MemoryStore}
variable {e : StoreError}

/-- A write that is refused in memory is refused. -/
theorem update_of_refused (hput : s.index.put key value mode = .error e) :
    update key value mode s = .error e s := by
  unfold update
  rw [Action.get_bind, hput, Action.ofExcept_bind_error]

/-- A write without effect does not reach the file. -/
theorem update_of_unchanged (hput : s.index.put key value mode = .ok (outcome, n))
    (hsame : outcome.updated = false) : update key value mode s = .ok outcome s := by
  unfold update
  rw [Action.get_bind, hput, Action.ofExcept_bind_ok]
  simp only [hsame, Bool.false_eq_true, if_false]
  rfl

/-- A write with an effect is followed by what comes after a change. -/
theorem update_of_changed (hput : s.index.put key value mode = .ok (outcome, n))
    (hchanged : outcome.updated = true) : update key value mode s =
      (afterChange key (s.index.get? key) >>= fun _ => pure outcome) { s with index := n } := by
  unfold update
  rw [Action.get_bind, hput, Action.ofExcept_bind_ok]
  simp only [hchanged, if_true]
  rfl

/-- Nothing is removed under a key that is not there. -/
theorem delete_of_absent (hget : s.index.get? key = none) : delete key s = .ok false s := by
  unfold delete
  rw [Action.get_bind, hget]
  rfl

/-- A key that is there is removed, and then what comes after a change is done. -/
theorem delete_of_present (hget : s.index.get? key = some value) : delete key s =
    (afterChange key (some value) >>= fun _ => pure true)
      { s with index := s.index.erase key } := by
  unfold delete
  rw [Action.get_bind, hget]
  rfl

end Changes

end DurableStore

namespace MemoryStore

variable {m n : MemoryStore} {key value : Bytes} {mode : WriteMode} {e : StoreError}
variable {outcome : WriteOutcome}

/-- An entry is accepted exactly if it has a key and is within the limits. -/
theorem checkEntry_eq_ok_iff : m.checkEntry key value = .ok () ↔
    key ≠ [] ∧ key.length ≤ m.maxKeySize ∧ value.length ≤ m.maxValueSize := by
  unfold checkEntry
  by_cases hkey : key = []
  · simp [hkey]
  · by_cases hkeySize : m.maxKeySize < key.length
    · simp [hkey, hkeySize, Nat.not_le.mpr hkeySize]
    · by_cases hvalueSize : m.maxValueSize < value.length
      · simp [hkey, hkeySize, hvalueSize]
      · simp [hkey, hkeySize, hvalueSize, Nat.not_lt.mp hkeySize, Nat.not_lt.mp hvalueSize]

/-- A write fails at a limit, changes nothing, or stores the entry. -/
theorem put_cases (m : MemoryStore) (key value : Bytes) (mode : WriteMode) :
    (∃ e, m.checkEntry key value = .error e ∧ m.put key value mode = .error e) ∨
    m.put key value mode = .ok (.unchanged, m) ∨
    ∃ added, m.put key value mode = .ok (⟨added, true⟩, m.load key value) := by
  unfold put
  cases hcheck : m.checkEntry key value with
  | error e => exact Or.inl ⟨e, rfl, rfl⟩
  | ok u =>
    refine Or.inr ?_
    cases hget : m.get? key with
    | none =>
      show (if mode = .update then _ else _) = _ ∨ ∃ added, (if mode = .update then _ else _) = _
      split
      · exact Or.inl rfl
      · exact Or.inr ⟨true, rfl⟩
    | some current =>
      show (if mode = .insert ∨ current = value then _ else _) = _ ∨
        ∃ added, (if mode = .insert ∨ current = value then _ else _) = _
      split
      · exact Or.inl rfl
      · exact Or.inr ⟨false, rfl⟩

/-- A write without effect leaves the entries. -/
theorem eq_of_put_unchanged (hput : m.put key value mode = .ok (outcome, n))
    (hsame : outcome.updated = false) : n = m := by
  rcases put_cases m key value mode with ⟨e, -, hrun⟩ | hrun | ⟨added, hrun⟩
  · rw [hrun] at hput
    cases hput
  · rw [hrun] at hput
    obtain ⟨-, rfl⟩ := Prod.mk.inj (Except.ok.inj hput)
    rfl
  · rw [hrun] at hput
    obtain ⟨rfl, -⟩ := Prod.mk.inj (Except.ok.inj hput)
    cases hsame

end MemoryStore

namespace StoreCall

/-! ## Calls in memory -/

section Memory

variable {m n : MemoryStore} {call : StoreCall} {a : StoreAnswer} {e : StoreError}
variable {s : DurableStore}

/-- A write in memory ends as the entries say. -/
theorem onMemory_update (m : MemoryStore) (key value : Bytes) (mode : WriteMode) :
    (update key value mode).onMemory m = match m.put key value mode with
      | .ok (outcome, n) => .ok (.written outcome) n
      | .error e => .error e m := by
  show (MemoryStore.update key value mode >>= fun o => pure (StoreAnswer.written o)) m = _
  unfold MemoryStore.update
  rw [bind_assoc, Action.get_bind]
  cases m.put key value mode <;> rfl

theorem onMemory_delete (m : MemoryStore) (key : Bytes) :
    (delete key).onMemory m = match m.get? key with
      | some _ => .ok (.removed true) (m.erase key)
      | none => .ok (.removed false) m := by
  show (MemoryStore.delete key >>= fun b => pure (StoreAnswer.removed b)) m = _
  unfold MemoryStore.delete
  rw [bind_assoc, Action.get_bind]
  cases m.get? key <;> rfl

/-- A call has changed the entries exactly if it answers so. -/
theorem changes_of_ok (hmemory : call.onMemory m = .ok a n) : call.changes m = a.changed := by
  unfold changes Action.outcome
  rw [hmemory]

/-- What is refused is not committed. -/
theorem commits_of_error (hmemory : call.onMemory s.index = .error e n) :
    call.commits s = false := by
  have hchanges : call.changes s.index = false := by
    unfold changes Action.outcome
    rw [hmemory]
  cases call with
  | commit => cases hmemory
  | flush => cases hmemory
  | update key value mode =>
    show (s.options.autoCommit && changes s.index (update key value mode)) = false
    rw [hchanges, Bool.and_false]
  | delete key =>
    show (s.options.autoCommit && changes s.index (delete key)) = false
    rw [hchanges, Bool.and_false]

/-- A call that reports no change makes none. -/
theorem eq_of_unchanged (hmemory : call.onMemory m = .ok a n) (hsame : a.changed = false) :
    n = m := by
  cases call with
  | commit =>
    injection hmemory with _ hn
    exact hn.symm
  | flush =>
    injection hmemory with _ hn
    exact hn.symm
  | update key value mode =>
    rw [onMemory_update] at hmemory
    cases hput : m.put key value mode with
    | error e =>
      rw [hput] at hmemory
      cases hmemory
    | ok r =>
      rw [hput] at hmemory
      injection hmemory with ha hn
      rw [← ha] at hsame
      rw [← hn]
      exact MemoryStore.eq_of_put_unchanged hput hsame
  | delete key =>
    rw [onMemory_delete] at hmemory
    cases hget : m.get? key with
    | none =>
      rw [hget] at hmemory
      injection hmemory with _ hn
      exact hn.symm
    | some value =>
      rw [hget] at hmemory
      injection hmemory with ha _
      rw [← ha] at hsame
      cases hsame

end Memory

/-! ## Calls on a file -/

open DurableStore

/-- How a call ends. -/
inductive Ends (call : StoreCall) (s : DurableStore) : Prop
  /-- The call is refused, and nothing happens. -/
  | refused {e : StoreError} (hmemory : call.onMemory s.index = .error e s.index)
      (hcommits : call.commits s = false) (hrun : call.run s = .error e s)
  /-- The call leaves the file alone. -/
  | kept {a : StoreAnswer} {n : MemoryStore} (hmemory : call.onMemory s.index = .ok a n)
      (hcommits : call.commits s = false)
      (hrun : call.run s = .ok a { s with index := n, dirty := s.dirty || a.changed })
  /-- The entries are committed. -/
  | committed {a : StoreAnswer} {u t : DurableStore}
      (hmemory : call.onMemory s.index = .ok a u.index) (hcommits : call.commits s = true)
      (hsame : s.SameFile u)
      (hcommit : DurableStore.commit u = .ok () t) (hrun : call.run s = .ok a t)
  /-- The entries cannot be committed. -/
  | undone {a : StoreAnswer} {e : StoreError} {u w t : DurableStore}
      (hmemory : call.onMemory s.index = .ok a u.index) (hcommits : call.commits s = true)
      (hsame : s.SameFile u) (hcommit : DurableStore.commit u = .error e w)
      (hrun : call.run s = .error e t) (hback : w.SameFile t)

/-- A call that commits ends like the commit. -/
theorem ends_of_commit {call : StoreCall} {s : DurableStore}
    (hmemory : call.onMemory s.index = .ok .finished s.index) (hcommits : call.commits s = true)
    (hrun : call.run s = (do
      DurableStore.commit
      return StoreAnswer.finished : Action StoreError DurableStore StoreAnswer) s) :
    call.Ends s := by
  cases hcommit : DurableStore.commit s with
  | ok a t =>
    rw [Action.bind_ok hcommit] at hrun
    exact .committed hmemory hcommits SameFile.refl hcommit hrun
  | error e w =>
    rw [Action.bind_error hcommit] at hrun
    exact .undone hmemory hcommits SameFile.refl hcommit hrun SameFile.refl

/-- A call that changes a key ends like the commit, if it makes one. -/
theorem ends_of_change {call : StoreCall} {s : DurableStore} {n : MemoryStore} {a : StoreAnswer}
    (key : Bytes) (previous : Option Bytes) (hmemory : call.onMemory s.index = .ok a n)
    (hchanged : a.changed = true) (hcommits : call.commits s = s.options.autoCommit)
    (hrun : call.run s = (do
      afterChange key previous
      return a : Action StoreError DurableStore StoreAnswer) { s with index := n }) :
    call.Ends s := by
  rcases afterChange_cases key previous { s with index := n } with
    ⟨hauto, hafter⟩ | ⟨hauto, ⟨t, hcommit, hafter⟩ | ⟨e, w, hcommit, hafter⟩⟩
  · rw [Action.bind_ok hafter] at hrun
    refine .kept hmemory (hcommits.trans hauto) ?_
    rw [hrun, hchanged, Bool.or_true]
    rfl
  · rw [Action.bind_ok hafter] at hrun
    have hsame : s.SameFile { s with index := n, dirty := true } := rfl
    exact .committed hmemory (hcommits.trans hauto) hsame hcommit hrun
  · rw [Action.bind_error hafter] at hrun
    have hsame : s.SameFile { s with index := n, dirty := true } := rfl
    exact .undone hmemory (hcommits.trans hauto) hsame hcommit hrun rfl

/-- A flush commits what has changed. -/
theorem flush_ends (s : DurableStore) : flush.Ends s := by
  have hflush : run flush s = if s.dirty = true then (do
      DurableStore.commit
      return StoreAnswer.finished : Action StoreError DurableStore StoreAnswer) s
      else .ok .finished s := by
    show (DurableStore.flush >>= fun _ => pure StoreAnswer.finished) s = _
    unfold DurableStore.flush
    rw [bind_assoc, Action.get_bind]
    cases s.dirty <;> rfl
  cases hdirty : s.dirty with
  | false =>
    rw [hdirty, if_neg (by decide)] at hflush
    refine .kept rfl hdirty ?_
    rw [hflush, hdirty]
    show EStateM.Result.ok _ s = .ok _ { s with dirty := false }
    rw [← hdirty]
  | true =>
    rw [hdirty, if_pos rfl] at hflush
    exact ends_of_commit rfl hdirty hflush

/-- A write is refused, has no effect, or changes its key. -/
theorem update_ends (key value : Bytes) (mode : WriteMode) (s : DurableStore) :
    (update key value mode).Ends s := by
  have hmemory := onMemory_update s.index key value mode
  cases hput : s.index.put key value mode with
  | error e =>
    rw [hput] at hmemory
    exact .refused hmemory (commits_of_error hmemory) (Action.bind_error (update_of_refused hput))
  | ok r =>
    obtain ⟨outcome, n⟩ := r
    rw [hput] at hmemory
    have hcommits : commits s (update key value mode) =
        (s.options.autoCommit && outcome.updated) := by
      show (s.options.autoCommit && changes s.index (update key value mode)) = _
      rw [changes_of_ok hmemory]
      rfl
    cases hupdated : outcome.updated with
    | false =>
      have hn := MemoryStore.eq_of_put_unchanged hput hupdated
      have hrun : run (update key value mode) s = .ok (.written outcome) s :=
        Action.bind_ok (update_of_unchanged hput hupdated)
      refine .kept hmemory ?_ ?_
      · rw [hcommits, hupdated, Bool.and_false]
      · rw [hrun, hn]
        show _ = EStateM.Result.ok _ { s with dirty := s.dirty || outcome.updated }
        rw [hupdated, Bool.or_false]
    | true =>
      refine ends_of_change key (s.index.get? key) hmemory hupdated ?_ ?_
      · rw [hcommits, hupdated, Bool.and_true]
      · show (DurableStore.update key value mode >>= fun o => pure (StoreAnswer.written o)) s = _
        rw [Action.bind_of_run_eq (update_of_changed hput hupdated), bind_assoc]
        rfl

/-- A removal finds no key, or changes it. -/
theorem delete_ends (key : Bytes) (s : DurableStore) : (delete key).Ends s := by
  have hmemory := onMemory_delete s.index key
  have hcommits : commits s (delete key) =
      (s.options.autoCommit && changes s.index (delete key)) := rfl
  cases hget : s.index.get? key with
  | none =>
    rw [hget] at hmemory
    rw [changes_of_ok hmemory] at hcommits
    refine .kept hmemory (hcommits.trans (Bool.and_false _)) ?_
    have hrun : run (delete key) s = .ok (.removed false) s :=
      Action.bind_ok (delete_of_absent hget)
    rw [hrun]
    show _ = EStateM.Result.ok _ { s with dirty := s.dirty || false }
    rw [Bool.or_false]
  | some value =>
    rw [hget] at hmemory
    rw [changes_of_ok hmemory] at hcommits
    refine ends_of_change key (some value) hmemory rfl ?_ ?_
    · exact hcommits.trans (Bool.and_true _)
    · show (DurableStore.delete key >>= fun b => pure (StoreAnswer.removed b)) s = _
      rw [Action.bind_of_run_eq (delete_of_present hget), bind_assoc]
      rfl

/-- **How a call ends**: without a commit it leaves the file alone, else it ends like the
commit. -/
theorem ends (call : StoreCall) (s : DurableStore) : call.Ends s := by
  cases call with
  | update key value mode => exact update_ends key value mode s
  | delete key => exact delete_ends key s
  | commit => exact ends_of_commit rfl rfl rfl
  | flush => exact flush_ends s

section Cases

variable {call : StoreCall} {s t : DurableStore} {a : StoreAnswer} {e : StoreError}

/-- The entries after a call are those that it leads to. -/
theorem contents_of_ok {m n : MemoryStore} (hmemory : call.onMemory m = .ok a n) :
    call.contents m = n := by
  unfold contents Action.outcome
  rw [hmemory]

/-- A call that succeeds has left the file alone, or has committed. -/
theorem ok_cases (hrun : call.run s = .ok a t) :
    (call.commits s = false ∧ call.onMemory s.index = .ok a t.index ∧
      t = { s with index := t.index, dirty := s.dirty || a.changed }) ∨
    (call.commits s = true ∧ ∃ u, s.SameFile u ∧ call.contents s.index = u.index ∧
      DurableStore.commit u = .ok () t) := by
  cases call.ends s with
  | refused _ _ hrun' =>
    rw [hrun'] at hrun
    cases hrun
  | undone _ _ _ _ hrun' _ =>
    rw [hrun'] at hrun
    cases hrun
  | kept hmemory hcommits hrun' =>
    rw [hrun'] at hrun
    injection hrun with ha ht
    subst ha ht
    exact Or.inl ⟨hcommits, hmemory, rfl⟩
  | committed hmemory hcommits hsame hcommit hrun' =>
    rw [hrun'] at hrun
    injection hrun with _ ht
    exact Or.inr ⟨hcommits, _, hsame, contents_of_ok hmemory, ht ▸ hcommit⟩

/-- A call that fails was refused, or its commit has failed. -/
theorem error_cases (hrun : call.run s = .error e t) :
    (call.commits s = false ∧ t = s) ∨
    (call.commits s = true ∧ ∃ u w, s.SameFile u ∧ call.contents s.index = u.index ∧
      DurableStore.commit u = .error e w ∧ w.SameFile t) := by
  cases call.ends s with
  | refused _ hcommits hrun' =>
    rw [hrun'] at hrun
    injection hrun with _ ht
    exact Or.inl ⟨hcommits, ht.symm⟩
  | kept _ _ hrun' =>
    rw [hrun'] at hrun
    cases hrun
  | committed _ _ _ _ hrun' =>
    rw [hrun'] at hrun
    cases hrun
  | undone hmemory hcommits hsame hcommit hrun' hback =>
    rw [hrun'] at hrun
    injection hrun with he ht
    subst he ht
    exact Or.inr ⟨hcommits, _, _, hsame, contents_of_ok hmemory, hcommit, hback⟩

end Cases

end StoreCall

end PagedTables
