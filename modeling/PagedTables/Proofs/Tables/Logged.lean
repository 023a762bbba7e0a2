/-
# Stores that keep a log

A store in memory can keep a copy of its entries at the last commit, and a log of what a file
would have had to take: how many bytes in all, and how long the longest of its byte strings is. As
long as the log stays within the bounds of a file, tables cannot tell such a store from one in a
file.

* `LoggedStore` : the store, with `LoggedStore.Within` for its bounds;
* `LoggedStore.faithful` : its calls end like those in memory;
* `LoggedStore.Backs` : the store in a file that it stands for;
* `LoggedStore.follows_calls`, `LoggedStore.Backs.exists_open` : calls, and opening the file again.
-/
import PagedTables.Proofs.Store.Lawful
import PagedTables.Proofs.Store.Refinement
import PagedTables.Proofs.Tables.Following
import PagedTables.Table.Opening

namespace PagedTables

open PagedTables.Action

/-- Options of a database that pass the check have options of a store that do. -/
theorem DatabaseOptions.check_store {options : DatabaseOptions} (h : options.check = .ok ()) :
    options.store.check = .ok () := by
  unfold DatabaseOptions.check at h
  split at h
  · cases h
  · exact h

/-- The limits of a store with certain options. -/
def StoreOptions.limits (options : StoreOptions) : Limits :=
  ⟨options.maxKeySize, options.maxValueSize⟩

/-! ## The store -/

/-- The length of the longest byte string that a call writes. -/
def StoreCall.longest : StoreCall → Nat
  | update key value _ => max key.length value.length
  | _ => 0

/-- A call is valid if the lengths of what it writes can be written. -/
theorem StoreCall.valid_of_longest {call : StoreCall} (h : call.longest < 2 ^ 32) :
    (StoreOperation.call call).Valid := by
  cases call with
  | update key value mode => exact max_lt_iff.mp h
  | _ => trivial

/-- A call that is not refused writes nothing longer than the limits. -/
theorem StoreCall.longest_le {call : StoreCall} {m n : MemoryStore} {a : StoreAnswer}
    (h : call.onMemory m = .ok a n) : call.longest ≤ max m.maxKeySize m.maxValueSize := by
  cases call with
  | update key value mode =>
    rw [onMemory_update, MemoryStore.put] at h
    cases hcheck : m.checkEntry key value with
    | ok u =>
      obtain ⟨-, hkey, hvalue⟩ := MemoryStore.checkEntry_eq_ok_iff.mp hcheck
      exact max_le_max hkey hvalue
    | error e =>
      rw [hcheck] at h
      cases h
  | _ => exact Nat.zero_le _

/-- What a write has done, by what a call answers. -/
def StoreAnswer.outcome : StoreAnswer → WriteOutcome
  | written outcome => outcome
  | _ => .unchanged

/-- A store in memory with a copy of what was committed last, and a log of what was written. -/
structure LoggedStore where
  /-- The entries and the copy, with the number of bytes that all commits have taken. -/
  memory : SavedStore
  /-- The length of the longest byte string that a call has written. -/
  longest : Nat

namespace LoggedStore

/-- An empty store. -/
def new (options : StoreOptions) : LoggedStore :=
  ⟨.new options, 0⟩

/-- Makes a call, and logs it unless it is refused. -/
def ask (call : StoreCall) : Action StoreError LoggedStore StoreAnswer := do
  let answer ← within memory (fun m memory => { m with memory := memory }) id (SavedStore.call call)
  modify fun m => { m with longest := max m.longest call.longest }
  return answer

instance : Store LoggedStore where
  contents m := m.memory.contents
  update key value mode := StoreAnswer.outcome <$> ask (.update key value mode)
  delete key := StoreAnswer.changed <$> ask (.delete key)
  flush := (fun _ => ()) <$> ask .flush

/-- Goes back to the entries of the last commit. -/
def reopen (options : StoreOptions) (m : LoggedStore) : LoggedStore :=
  { m with memory := ((SavedStore.reopen options).outcome m.memory).2 }

/-- The log of a store with certain limits is within the bounds of a file: its pages can be counted,
and so can the bytes of an entry, which the limits themselves may see to. -/
def Within (limits : Limits) (m : LoggedStore) : Prop :=
  m.memory.written < 2 ^ 60 ∧
    (max limits.maxKeySize limits.maxValueSize < 2 ^ 32 ∨ m.longest < 2 ^ 32)

instance (limits : Limits) (m : LoggedStore) : Decidable (m.Within limits) :=
  inferInstanceAs (Decidable (_ ∧ _))

variable {m n : LoggedStore} {call : StoreCall} {a : StoreAnswer} {contents : MemoryStore}
variable {e : StoreError}

/-- A call that succeeds is logged. -/
theorem ask_of_ok (h : call.onMemory m.memory.contents = .ok a contents) :
    ask call m = .ok a
      ⟨m.memory.change contents (m.memory.commits a call), max m.longest call.longest⟩ := by
  rw [ask, bind_ok (within_ok (SavedStore.call_of_ok h))]
  rfl

/-- A call that is refused is not logged. -/
theorem ask_of_error (h : call.onMemory m.memory.contents = .error e contents) :
    ask call m = .error e m := by
  rw [ask, bind_error (within_error (SavedStore.call_of_error h))]
  rfl

/-- **The store is faithful**, and has no failures of its own. -/
theorem faithful : Store.Faithful LoggedStore fun _ => False where
  update := by
    intro m key value mode
    show Store.Obeys _ m (m.memory.contents.put key value mode)
      ((StoreAnswer.outcome <$> ask (.update key value mode)) m)
    have hmemory := StoreCall.onMemory_update m.memory.contents key value mode
    cases hput : m.memory.contents.put key value mode with
    | error e =>
      rw [hput] at hmemory
      rw [map_error _ (ask_of_error hmemory)]
      exact .refused rfl
    | ok r =>
      rw [hput] at hmemory
      rw [map_ok _ (ask_of_ok hmemory)]
      exact .done rfl
  delete := by
    intro m key
    show Store.Obeys _ m (.ok ((m.memory.contents.get? key).isSome, m.memory.contents.erase key))
      ((StoreAnswer.changed <$> ask (.delete key)) m)
    have hmemory := StoreCall.onMemory_delete m.memory.contents key
    cases hget : m.memory.contents.get? key with
    | none =>
      rw [hget] at hmemory
      rw [map_ok _ (ask_of_ok hmemory)]
      exact .done (MemoryStore.erase_of_get? hget).symm
    | some value =>
      rw [hget] at hmemory
      rw [map_ok _ (ask_of_ok hmemory)]
      exact .done rfl
  flush := by
    intro m
    show Store.Obeys _ m (.ok ((), m.memory.contents)) (((fun _ => ()) <$> ask .flush) m)
    have hmemory : StoreCall.onMemory .flush m.memory.contents = .ok .finished m.memory.contents :=
      rfl
    rw [map_ok _ (ask_of_ok hmemory)]
    exact .done rfl

/-! ## The store in a file -/

/-- The store stands for one in a file. It has certain limits, commits every change or does not,
and if it does not, something is known of the entries of the last commit. -/
structure Backs (limits : Limits) (autoCommit : Bool) (Known : Entries → Prop) (s : DurableStore)
    (m : LoggedStore) : Prop where
  mirrors : s.Mirrors m.memory
  limits_eq : m.memory.contents.limits = limits
  autoCommit_eq : m.memory.autoCommit = autoCommit
  known : autoCommit = false → Known m.memory.saved

variable {limits : Limits} {autoCommit : Bool} {Known : Entries → Prop} {s : DurableStore}

/-- A call in memory leaves the limits. -/
theorem limits_of_onMemory {m n : MemoryStore} (h : call.onMemory m = .ok a n) :
    n.limits = m.limits := by
  cases call with
  | commit => exact (EStateM.Result.ok.inj h).2 ▸ rfl
  | flush => exact (EStateM.Result.ok.inj h).2 ▸ rfl
  | delete key =>
    rw [StoreCall.onMemory_delete] at h
    split at h
    · exact (EStateM.Result.ok.inj h).2 ▸ rfl
    · exact (EStateM.Result.ok.inj h).2 ▸ rfl
  | update key value mode =>
    rw [StoreCall.onMemory_update] at h
    rcases m.put_cases key value mode with ⟨e, -, hput⟩ | hput | ⟨added, hput⟩
    · rw [hput] at h
      cases h
    · rw [hput] at h
      exact (EStateM.Result.ok.inj h).2 ▸ rfl
    · rw [hput] at h
      exact (EStateM.Result.ok.inj h).2 ▸ rfl

/-- **A call** on the store in a file ends like the logged one. If it commits without being asked
for every change, nothing more can be known of the saved entries than before. -/
theorem follows_ask (hknown : ∀ (m : SavedStore) (a : StoreAnswer), m.autoCommit = false →
    m.commits a call = true → ∀ entries, Known entries) :
    Action.Follows (Within limits) (Backs limits autoCommit Known)
      (Backs limits autoCommit Known) call.run (ask call) := by
  intro s m hok
  cases hmemory : call.onMemory m.memory.contents with
  | ok a contents =>
    rw [outcome, ask_of_ok hmemory] at hok
    obtain ⟨hwritten, hlongest⟩ := hok
    have hlongest' := hlongest.imp_right max_lt_iff.mp
    refine ⟨⟨lt_of_le_of_lt (Nat.le_add_right _ _) hwritten, hlongest'.imp_right And.left⟩,
      fun hs => ?_⟩
    have hle : call.longest ≤ max limits.maxKeySize limits.maxValueSize :=
      hs.limits_eq ▸ StoreCall.longest_le hmemory
    have hvalid := StoreCall.valid_of_longest
      (hlongest'.elim (lt_of_le_of_lt hle) And.right)
    have hcall := hs.mirrors.call (fun _ _ _ => hvalid)
      (by rw [outcome, SavedStore.call_of_ok hmemory]; exact hwritten)
    rw [SavedStore.call_of_ok hmemory] at hcall
    rw [ask_of_ok hmemory]
    generalize call.run s = r at hcall
    cases hcall with
    | ok ht =>
      refine .ok ⟨ht, (limits_of_onMemory hmemory).trans hs.limits_eq, hs.autoCommit_eq, ?_⟩
      intro hauto
      show Known (if m.memory.commits a call = true then contents.entries else m.memory.saved)
      split
      · next hcommits => exact hknown _ a (hs.autoCommit_eq.trans hauto) hcommits _
      · exact hs.known hauto
  | error e contents =>
    rw [outcome, ask_of_error hmemory] at hok
    refine ⟨hok, fun hs => ?_⟩
    have hcall := hs.mirrors.call (fun a n hanswer => by rw [hmemory] at hanswer; cases hanswer)
      (by rw [outcome, SavedStore.call_of_error hmemory]; exact hok.1)
    rw [SavedStore.call_of_error hmemory] at hcall
    rw [ask_of_error hmemory]
    generalize call.run s = r at hcall
    cases hcall with
    | error ht => exact .error ⟨ht, hs.limits_eq, hs.autoCommit_eq, hs.known⟩

/-- **The changes** of the store in a file end like the logged ones. -/
theorem follows_calls : Store.Follows (Within limits) (Backs limits autoCommit Known) where
  agrees := fun _ _ hs => congrArg MemoryStore.entries hs.mirrors.index_eq
  update := by
    intro key value mode
    have hrun : StoreAnswer.outcome <$> (StoreCall.update key value mode).run =
        DurableStore.update key value mode := by
      simp [StoreCall.run, StoreAnswer.outcome]
    show Action.Follows _ _ _ (DurableStore.update key value mode)
      (StoreAnswer.outcome <$> ask (.update key value mode))
    rw [← hrun]
    refine (follows_ask fun m a hauto hcommits => ?_).map _
    rw [SavedStore.commits, hauto, Bool.false_and] at hcommits
    cases hcommits
  delete := by
    intro key
    have hrun : StoreAnswer.changed <$> (StoreCall.delete key).run = DurableStore.delete key := by
      simp [StoreCall.run, StoreAnswer.changed]
    show Action.Follows _ _ _ (DurableStore.delete key) (StoreAnswer.changed <$> ask (.delete key))
    rw [← hrun]
    refine (follows_ask fun m a hauto hcommits => ?_).map _
    rw [SavedStore.commits, hauto, Bool.false_and] at hcommits
    cases hcommits

/-- So does making them durable, which replaces the saved entries. -/
theorem follows_flush : Action.Follows (Within limits) (Backs limits autoCommit fun _ => True)
    (Backs limits autoCommit fun _ => True) Store.flush Store.flush := by
  have hrun : (fun _ => ()) <$> StoreCall.flush.run = DurableStore.flush := by
    simp [StoreCall.run]
  show Action.Follows _ _ _ DurableStore.flush ((fun _ => ()) <$> ask .flush)
  rw [← hrun]
  exact (follows_ask fun _ _ _ _ _ => trivial).map _

/-- A flush is answered, and saves the entries. -/
theorem flush_eq (m : LoggedStore) : ∃ n : LoggedStore, Store.flush m = .ok () n ∧
    n.memory.saved = n.memory.contents.entries := by
  have hmemory : StoreCall.onMemory .flush m.memory.contents = .ok .finished m.memory.contents :=
    rfl
  exact ⟨_, map_ok _ (ask_of_ok hmemory), rfl⟩

/-- **The file can be opened again**, with the entries of the last commit. -/
theorem Backs.exists_open (h : Backs limits autoCommit Known s m) {options : DatabaseOptions}
    (hvalid : options.check = .ok ()) :
    ∃ t, Database.open options (.present s.pages.disk.bytes) = .ok { store := t } ∧
      Backs options.store.limits options.store.autoCommit (fun _ => True) t
        (m.reopen options.store) := by
  have hreopen := h.mirrors.reopen options.path (DatabaseOptions.check_store hvalid)
  unfold DurableStore.reopen at hreopen
  rw [get_bind] at hreopen
  cases hopen : DurableStore.open options.path (.present s.pages.disk.bytes) options.store with
  | error e =>
    rw [hopen] at hreopen
    cases hreopen
  | ok t =>
    rw [hopen] at hreopen
    cases hreopen with
    | ok ht =>
      refine ⟨t, ?_, ⟨ht, rfl, rfl, fun _ => trivial⟩⟩
      rw [Database.open, hvalid, hopen]

end LoggedStore

end PagedTables
