/-
# Stores in a file and in memory

A store in a file cannot be told from one in memory that keeps a copy of its entries at the last
commit: every operation replies the same, and opening the file again leads back to that copy.

* `DurableStore.Mirrors` : a store in a file and one in memory that stand for each other;
* `DurableStore.Mirrors.operate` : every operation keeps them so, and replies the same;
* `DurableStore.refines_saved` : all operations on a new file.
-/
import PagedTables.Proofs.Store.Operation
import PagedTables.Proofs.Store.Reached

namespace PagedTables

/-! ## Calls in memory -/

/-- The errors that refuse an entry. -/
def StoreError.isLimit : StoreError → Bool
  | emptyKey | keyTooLarge .. | valueTooLarge .. => true
  | _ => false

/-- An entry is only refused at a limit. -/
theorem MemoryStore.isLimit_of_checkEntry {m : MemoryStore} {key value : Bytes} {e : StoreError}
    (hcheck : m.checkEntry key value = .error e) : e.isLimit = true := by
  unfold checkEntry at hcheck
  split at hcheck
  · obtain rfl := Except.error.inj hcheck
    rfl
  · split at hcheck
    · obtain rfl := Except.error.inj hcheck
      rfl
    · split at hcheck
      · obtain rfl := Except.error.inj hcheck
        rfl
      · cases hcheck

namespace StoreCall

variable {call : StoreCall} {m n : MemoryStore} {a : StoreAnswer} {e : StoreError}

/-- A call in memory only fails at a limit. -/
theorem isLimit_of_onMemory (hmemory : call.onMemory m = .error e n) : e.isLimit = true := by
  cases call with
  | commit => cases hmemory
  | flush => cases hmemory
  | delete key =>
    rw [onMemory_delete] at hmemory
    cases hget : m.get? key <;> rw [hget] at hmemory <;> cases hmemory
  | update key value mode =>
    rw [onMemory_update] at hmemory
    rcases m.put_cases key value mode with ⟨e', hcheck, hput⟩ | hput | ⟨added, hput⟩
    · rw [hput] at hmemory
      injection hmemory with he _
      rw [← he]
      exact MemoryStore.isLimit_of_checkEntry hcheck
    · rw [hput] at hmemory
      cases hmemory
    · rw [hput] at hmemory
      cases hmemory

/-- A valid call keeps the lengths such that they can be written. -/
theorem fits_of_onMemory (hvalid : (StoreOperation.call call).Valid)
    (hmemory : call.onMemory m = .ok a n) (hfits : ∀ x ∈ m.entries.toList, Snapshot.Fits x) :
    ∀ x ∈ n.entries.toList, Snapshot.Fits x := by
  cases call with
  | commit =>
    injection hmemory with _ hn
    rw [← hn]
    exact hfits
  | flush =>
    injection hmemory with _ hn
    rw [← hn]
    exact hfits
  | delete key =>
    rw [onMemory_delete] at hmemory
    cases hget : m.get? key with
    | none =>
      rw [hget] at hmemory
      injection hmemory with _ hn
      rw [← hn]
      exact hfits
    | some value =>
      rw [hget] at hmemory
      injection hmemory with _ hn
      rw [← hn]
      intro x hx
      exact hfits x (List.mem_of_mem_filter hx)
  | update key value mode =>
    rw [onMemory_update] at hmemory
    rcases m.put_cases key value mode with ⟨e, -, hput⟩ | hput | ⟨added, hput⟩
    · rw [hput] at hmemory
      cases hmemory
    · rw [hput] at hmemory
      injection hmemory with _ hn
      rw [← hn]
      exact hfits
    · rw [hput] at hmemory
      injection hmemory with _ hn
      rw [← hn]
      intro x hx
      rcases OrderedMap.mem_place hx with rfl | hold
      · exact hvalid
      · exact hfits x hold

end StoreCall

namespace DurableStore

variable {s t : DurableStore} {m k : SavedStore} {c : Checkpoint} {h : FreeHistory} {v w : Nat}

/-! ## Mirrors -/

/-- The store in a file has the entries of the one in memory, and its file holds the saved
ones. -/
structure Mirrors (s : DurableStore) (m : SavedStore) : Prop where
  settled : ∃ c h, s.Settled c h ∧ c.entries = m.saved
  accounts : s.Accounts m.written
  index_eq : s.index = m.contents
  autoCommit_eq : s.options.autoCommit = m.autoCommit
  clean_eq : s.dirty = false → m.saved = m.contents.entries
  saved_eq : m.autoCommit = true → m.saved = m.contents.entries
  faults_eq : s.pages.disk.faults = []
  fits : ∀ e ∈ m.contents.entries.toList, Snapshot.Fits e
  saved_fits : ∀ e ∈ m.saved.toList, Snapshot.Fits e

/-- Both stores end an action the same way, and still stand for each other. -/
inductive Alike {α : Type} : EStateM.Result StoreError DurableStore α →
    EStateM.Result StoreError SavedStore α → Prop
  | ok {a : α} {s : DurableStore} {m : SavedStore} : s.Mirrors m → Alike (.ok a s) (.ok a m)
  | error {e : StoreError} {s : DurableStore} {m : SavedStore} : s.Mirrors m →
      Alike (.error e s) (.error e m)

theorem Alike.bind {α β : Type} {act : Action StoreError DurableStore α}
    {act' : Action StoreError SavedStore α} {rest : α → Action StoreError DurableStore β}
    {rest' : α → Action StoreError SavedStore β} (h : Alike (act s) (act' m))
    (hrest : ∀ a t k, t.Mirrors k → Alike (rest a t) (rest' a k)) :
    Alike ((act >>= rest) s) ((act' >>= rest') m) := by
  generalize hr : act s = r at h
  generalize hr' : act' m = r' at h
  cases h with
  | ok hm =>
    rw [Action.bind_ok hr, Action.bind_ok hr']
    exact hrest _ _ _ hm
  | error hm =>
    rw [Action.bind_error hr, Action.bind_error hr']
    exact .error hm

/-- Actions that end the same way reply the same, and their stores stand for each other. -/
theorem Alike.outcome {α : Type} {act : Action StoreError DurableStore α}
    {act' : Action StoreError SavedStore α} (h : Alike (act s) (act' m)) :
    (act.outcome s).1 = (act'.outcome m).1 ∧ (act.outcome s).2.Mirrors (act'.outcome m).2 := by
  unfold Action.outcome
  generalize act s = r at h
  generalize act' m = r' at h
  cases h with
  | ok hm => exact ⟨rfl, hm⟩
  | error hm => exact ⟨rfl, hm⟩

theorem Accounts.mono (ha : s.Accounts v) (hle : v ≤ w) : s.Accounts w :=
  Nat.le_trans ha (Nat.add_le_add_right hle _)

/-- If the store in a file commits, so does the one in memory. -/
theorem commits_of_commits {call : StoreCall} {a : StoreAnswer} {n : MemoryStore}
    (hm : s.Mirrors m) (hmemory : call.onMemory s.index = .ok a n)
    (hcommits : call.commits s = true) : m.commits a call = true := by
  have hchanges := StoreCall.changes_of_ok hmemory
  cases call with
  | commit => rfl
  | flush => rfl
  | update key value mode =>
    show (m.autoCommit && a.changed) = true
    rw [← hm.autoCommit_eq, ← hchanges]
    exact hcommits
  | delete key =>
    show (m.autoCommit && a.changed) = true
    rw [← hm.autoCommit_eq, ← hchanges]
    exact hcommits

/-- With a commit after every change, a call that does not commit changes nothing. -/
theorem unchanged_of_not_commits {call : StoreCall} {a : StoreAnswer} {n : MemoryStore}
    (hm : s.Mirrors m) (hmemory : call.onMemory s.index = .ok a n)
    (hcommits : call.commits s = false) (hauto : m.autoCommit = true) : a.changed = false := by
  have hchanges := StoreCall.changes_of_ok hmemory
  rw [← hm.autoCommit_eq] at hauto
  cases call with
  | commit => cases hcommits
  | flush =>
    injection hmemory with ha _
    rw [← ha]
    rfl
  | update key value mode =>
    change (s.options.autoCommit && StoreCall.changes s.index (.update key value mode)) = false
      at hcommits
    rwa [hauto, hchanges, Bool.true_and] at hcommits
  | delete key =>
    change (s.options.autoCommit && StoreCall.changes s.index (.delete key)) = false at hcommits
    rwa [hauto, hchanges, Bool.true_and] at hcommits

/-- The store in memory saves the entries when the one in a file commits them. It may also do so
when they are saved already. -/
theorem Mirrors.saved_change {call : StoreCall} {a : StoreAnswer} {n : MemoryStore}
    (hm : s.Mirrors m) (hmemory : call.onMemory s.index = .ok a n) :
    (m.change n (m.commits a call)).saved =
      if call.commits s = true then n.entries else m.saved := by
  show (if m.commits a call = true then n.entries else m.saved) = _
  cases hcommits : call.commits s with
  | true => rw [commits_of_commits hm hmemory hcommits]
  | false =>
    cases hsave : m.commits a call with
    | false => rfl
    | true =>
      -- only a flush saves without a commit
      cases call with
      | commit => cases hcommits
      | flush =>
        injection hmemory with _ hn
        rw [← hn, hm.index_eq]
        exact (hm.clean_eq hcommits).symm
      | update key value mode =>
        obtain ⟨hauto, hchanged⟩ := Bool.and_eq_true_iff.mp hsave
        rw [unchanged_of_not_commits hm hmemory hcommits hauto] at hchanged
        cases hchanged
      | delete key =>
        obtain ⟨hauto, hchanged⟩ := Bool.and_eq_true_iff.mp hsave
        rw [unchanged_of_not_commits hm hmemory hcommits hauto] at hchanged
        cases hchanged

/-- The bytes that a call takes are counted in memory too. -/
theorem Mirrors.volume_le {call : StoreCall} {a : StoreAnswer} {n : MemoryStore}
    (hm : s.Mirrors m) (hmemory : call.onMemory s.index = .ok a n) :
    m.written + s.volume call ≤ (m.change n (m.commits a call)).written := by
  show _ ≤ m.written + _
  apply Nat.add_le_add_left
  unfold volume
  split
  next hcommits =>
    rw [commits_of_commits hm hmemory hcommits, if_pos rfl, StoreCall.contents, Action.outcome,
      hmemory]
  next => exact Nat.zero_le _

/-- After a call that succeeds, both stores have the new entries. -/
theorem Mirrors.of_completes {call : StoreCall} {a : StoreAnswer} (hm : s.Mirrors m)
    (hvalid : (StoreOperation.call call).Valid) (hentries : c.entries = m.saved)
    (hdone : s.Completes t c m.written call a) :
    t.Mirrors (m.change t.index (m.commits a call)) := by
  have hsaved := hm.saved_change hdone.memory_eq
  have hfits := StoreCall.fits_of_onMemory hvalid hdone.memory_eq
    (by rw [hm.index_eq]; exact hm.fits)
  -- without a commit, what is unchanged is still saved
  have hkept : a.changed = false → m.saved = m.contents.entries → m.saved = t.index.entries := by
    intro hsame hold
    rw [hold, StoreCall.eq_of_unchanged hdone.memory_eq hsame, hm.index_eq]
  obtain ⟨g, hsettled⟩ := hdone.settled
  refine {
    settled := ⟨_, g, hsettled, ?_⟩
    accounts := hdone.accounts.mono (hm.volume_le hdone.memory_eq)
    index_eq := rfl
    autoCommit_eq := ?_
    clean_eq := ?_
    saved_eq := ?_
    faults_eq := hdone.faults_nil hm.faults_eq
    fits := hfits
    saved_fits := ?_ }
  · rw [hsaved]
    split
    · rfl
    · exact hentries
  · rw [hdone.options_eq]
    exact hm.autoCommit_eq
  · -- the store is clean after a commit, or if it was and the call changes nothing
    intro hdirty
    rw [hsaved]
    rw [hdone.dirty_eq] at hdirty
    cases hcommits : call.commits s with
    | true => rw [if_pos rfl]; rfl
    | false =>
      rw [hcommits, Bool.not_false, Bool.true_and, Bool.or_eq_false_iff] at hdirty
      exact hkept hdirty.2 (hm.clean_eq hdirty.1)
  · intro hauto
    rw [hsaved]
    cases hcommits : call.commits s with
    | true => rw [if_pos rfl]; rfl
    | false =>
      exact hkept (unchanged_of_not_commits hm hdone.memory_eq hcommits hauto) (hm.saved_eq hauto)
  · rw [hsaved]
    split
    · exact hfits
    · exact hm.saved_fits

/-- **Calls** on both stores end alike, if those that are not refused are valid. -/
theorem Mirrors.call {call : StoreCall} (hm : s.Mirrors m)
    (hvalid : ∀ a n, call.onMemory m.contents = .ok a n → (StoreOperation.call call).Valid)
    (hv : ((SavedStore.call call).outcome m).2.written < 2 ^ 60) :
    Alike (call.run s) (SavedStore.call call m) := by
  obtain ⟨c, h, hs, hentries⟩ := hm.settled
  unfold Action.outcome at hv
  cases hmemory : call.onMemory s.index with
  | error e n =>
    have hcall : SavedStore.call call m = .error e m :=
      SavedStore.call_of_error (by rw [← hm.index_eq]; exact hmemory)
    rw [hcall] at hv ⊢
    -- what is refused takes no bytes
    have hvolume : s.volume call = 0 := by
      unfold volume
      rw [StoreCall.commits_of_error hmemory]
      rfl
    rcases hs.call_cases hm.accounts call (by rw [hvolume]; exact hv) with
      ⟨b, t, hdone⟩ | ⟨e', t, hrun, -, hrefused⟩
    · have hsame := hmemory.symm.trans hdone.memory_eq
      cases hsame
    · obtain ⟨rfl, hrefused⟩ := hrefused hm.faults_eq
      obtain ⟨rfl, -⟩ := EStateM.Result.error.inj (hmemory.symm.trans hrefused)
      rw [hrun]
      exact .error hm
  | ok a n =>
    have hcall : SavedStore.call call m = .ok a (m.change n (m.commits a call)) :=
      SavedStore.call_of_ok (by rw [← hm.index_eq]; exact hmemory)
    rw [hcall] at hv ⊢
    rcases hs.call_cases hm.accounts call (Nat.lt_of_le_of_lt (hm.volume_le hmemory) hv) with
      ⟨b, t, hdone⟩ | ⟨e', t, hrun, -, hrefused⟩
    · obtain ⟨rfl, rfl⟩ := EStateM.Result.ok.inj (hmemory.symm.trans hdone.memory_eq)
      rw [hdone.run_eq]
      exact .ok (hm.of_completes (hvalid _ _ (hm.index_eq ▸ hmemory)) hentries hdone)
    · have hsame := hmemory.symm.trans (hrefused hm.faults_eq).2
      cases hsame

/-- **Opening the file again** leads back to the saved entries. -/
theorem Mirrors.reopen (hm : s.Mirrors m) (path : String) {options : StoreOptions}
    (hvalid : options.check = .ok ()) :
    Alike (DurableStore.reopen path options s) (SavedStore.reopen options m) := by
  obtain ⟨c, h, hs, hentries⟩ := hm.settled
  obtain ⟨t, hopen, ht, -, hindex, hdirty, hoptions, hdisk⟩ := open_of_stored path hvalid hs.stored
    (by rw [hentries]; exact hm.saved_fits)
  have hsize := (settled_of_open hvalid hs.stored hopen).2
  unfold DurableStore.reopen
  rw [Action.get_bind, hopen]
  refine .ok {
    settled := ⟨c, h, ht, hentries⟩
    accounts := hs.accounts_of_settled ht hsize hm.accounts
    index_eq := ?_
    autoCommit_eq := ?_
    clean_eq := fun _ => rfl
    saved_eq := fun _ => rfl
    faults_eq := ?_
    fits := hm.saved_fits
    saved_fits := hm.saved_fits }
  · rw [hindex, hentries]
  · rw [hoptions]
  · rw [hdisk]

/-! ## Operations one after another -/

/-- **Every operation** on both stores ends alike. -/
theorem Mirrors.operate (hm : s.Mirrors m) (op : StoreOperation) (hvalid : op.Valid)
    (hv : ((SavedStore.operate op).outcome m).2.written < 2 ^ 60) :
    Alike (DurableStore.operate op s) (SavedStore.operate op m) := by
  cases op with
  | call c =>
    have hsame : ((SavedStore.operate (.call c)).outcome m).2 =
        ((SavedStore.call c).outcome m).2 := by
      show (Action.outcome (SavedStore.call c >>= fun a => pure (StoreReply.answer a)) m).2 = _
      unfold Action.outcome
      cases hrun : SavedStore.call c m with
      | ok a k => rw [Action.bind_ok hrun]; rfl
      | error e k => rw [Action.bind_error hrun]
    rw [hsame] at hv
    exact (hm.call (fun _ _ _ => hvalid) hv).bind fun _ _ _ hk => .ok hk
  | get key =>
    show Alike (.ok (StoreReply.value (s.index.get? key)) s)
      (.ok (StoreReply.value (m.contents.get? key)) m)
    rw [hm.index_eq]
    exact .ok hm
  | seek comparison reference moves =>
    show Alike (.ok (StoreReply.trail (s.index.trail comparison reference moves)) s)
      (.ok (StoreReply.trail (m.contents.trail comparison reference moves)) m)
    rw [hm.index_eq]
    exact .ok hm
  | close path options =>
    have hflush : Alike (StoreCall.flush.run s) (SavedStore.call .flush m) :=
      hm.call (fun _ _ _ => trivial) hv
    refine hflush.bind fun _ _ _ hk => ?_
    exact (hk.reopen path hvalid).bind fun _ _ _ hk' => .ok hk'
  | drop path options =>
    exact (hm.reopen path hvalid).bind fun _ _ _ hk => .ok hk

/-- The number of written bytes never decreases. -/
theorem written_le_operate (m : SavedStore) (op : StoreOperation) :
    m.written ≤ ((SavedStore.operate op).outcome m).2.written := by
  cases op with
  | call c =>
    show _ ≤ (Action.outcome (SavedStore.call c >>=
      fun a => pure (StoreReply.answer a)) m).2.written
    unfold Action.outcome
    cases hmemory : c.onMemory m.contents with
    | ok a n =>
      rw [Action.bind_ok (SavedStore.call_of_ok hmemory)]
      exact Nat.le_add_right _ _
    | error e n => rw [Action.bind_error (SavedStore.call_of_error hmemory)]
  | get key => exact Nat.le_refl _
  | seek comparison reference moves => exact Nat.le_refl _
  | close path options => exact Nat.le_add_right _ _
  | drop path options => exact Nat.le_refl _

/-- The number of bytes that commits have taken never goes down. -/
theorem written_le_replies (ops : List StoreOperation) (m : SavedStore) :
    m.written ≤ (replies SavedStore.operate ops m).2.written := by
  induction ops generalizing m with
  | nil => exact Nat.le_refl _
  | cons op ops ih => exact Nat.le_trans (written_le_operate m op) (ih _)

/-- All operations on both stores have the same replies. -/
theorem Mirrors.replies (hm : s.Mirrors m) (ops : List StoreOperation)
    (hvalid : ∀ op ∈ ops, op.Valid)
    (hv : (replies SavedStore.operate ops m).2.written < 2 ^ 60) :
    (PagedTables.replies DurableStore.operate ops s).1 =
        (PagedTables.replies SavedStore.operate ops m).1 ∧
      (PagedTables.replies DurableStore.operate ops s).2.Mirrors
        (PagedTables.replies SavedStore.operate ops m).2 := by
  induction ops generalizing s m with
  | nil => exact ⟨rfl, hm⟩
  | cons op ops ih =>
    have hstep := hm.operate op (hvalid op List.mem_cons_self)
      (Nat.lt_of_le_of_lt (written_le_replies ops _) hv)
    obtain ⟨hreply, hk⟩ := hstep.outcome
    obtain ⟨hrest, hend⟩ := ih hk (fun op hop => hvalid op (List.mem_cons_of_mem _ hop)) hv
    exact ⟨congrArg₂ List.cons hreply hrest, hend⟩

/-- Operations in memory only fail at a limit. -/
theorem isLimit_of_operate {op : StoreOperation} {e : StoreError}
    (hreply : ((SavedStore.operate op).outcome m).1 = .error e) : e.isLimit = true := by
  cases op with
  | call c =>
    change (Action.outcome (SavedStore.call c >>= fun a => pure (StoreReply.answer a)) m).1 = _
      at hreply
    unfold Action.outcome at hreply
    cases hmemory : c.onMemory m.contents with
    | ok a n =>
      rw [Action.bind_ok (SavedStore.call_of_ok hmemory)] at hreply
      cases hreply
    | error e' n =>
      rw [Action.bind_error (SavedStore.call_of_error hmemory)] at hreply
      obtain rfl := Except.error.inj hreply
      exact StoreCall.isLimit_of_onMemory hmemory
  | get key => cases hreply
  | seek comparison reference moves => cases hreply
  | close path options => cases hreply
  | drop path options => cases hreply

/-- Operations in memory only fail at a limit. -/
theorem isLimit_of_replies (ops : List StoreOperation) (m : SavedStore) {e : StoreError}
    (hreply : .error e ∈ (replies SavedStore.operate ops m).1) : e.isLimit = true := by
  induction ops generalizing m with
  | nil => cases hreply
  | cons op ops ih =>
    rcases List.mem_cons.mp hreply with hfirst | hrest
    · exact isLimit_of_operate hfirst.symm
    · exact ih _ hrest

/-- A store in a new file stands for an empty one. -/
theorem mirrors_of_created (path : String) {options : StoreOptions}
    (hvalid : options.check = .ok ()) :
    ∃ s, create path { bytes := [] } options = .ok s ∧ s.Mirrors (.new options) := by
  obtain ⟨s, g, hrun, hs, ha, hindex, hoptions, hdirty, hfaults⟩ := create_ok path hvalid
  refine ⟨s, hrun, {
    settled := ⟨_, g, hs, ?_⟩
    accounts := ha
    index_eq := hindex
    autoCommit_eq := ?_
    clean_eq := fun _ => rfl
    saved_eq := fun _ => rfl
    faults_eq := hfaults
    fits := nofun
    saved_fits := nofun }⟩
  · show s.index.entries = _
    rw [hindex]
    rfl
  · rw [hoptions]
    rfl

/-- **A store in a file refines one in memory.** From a new file all operations reply what they
reply in memory, they fail only at a limit, and opening the file leads to the saved entries. -/
theorem refines_saved (path : String) {options : StoreOptions} (hvalid : options.check = .ok ())
    (hcreate : options.createIfMissing = true) (ops : List StoreOperation)
    (hops : ∀ op ∈ ops, op.Valid)
    (hv : (replies SavedStore.operate ops (.new options)).2.written < 2 ^ 60) :
    ∃ s t m rs, «open» path .absent options = .ok s ∧
      replies DurableStore.operate ops s = (rs, t) ∧
      replies SavedStore.operate ops (.new options) = (rs, m) ∧
      (∀ e, .error e ∈ rs → e.isLimit = true) ∧ t.index = m.contents ∧
      (m.autoCommit = true → m.saved = m.contents.entries) ∧
      ∀ (path' : String) (options' : StoreOptions), options'.check = .ok () →
        ∃ u, «open» path' (.present t.pages.disk.bytes) options' = .ok u ∧
          u.index = ⟨m.saved, options'.maxKeySize, options'.maxValueSize⟩ := by
  obtain ⟨s, hrun, hs⟩ := mirrors_of_created path hvalid
  obtain ⟨hsame, ht⟩ := hs.replies ops hops hv
  refine ⟨s, _, _, _, ?_, Prod.ext hsame rfl, rfl, ?_, ht.index_eq, ht.saved_eq, ?_⟩
  · rw [open_absent path hvalid hcreate]
    exact hrun
  · intro e
    exact isLimit_of_replies ops _
  · intro path' options' hvalid'
    obtain ⟨c, h, hc, hentries⟩ := ht.settled
    obtain ⟨u, hopen, -, -, hindex, -⟩ := open_of_stored path' hvalid' hc.stored
      (by rw [hentries]; exact ht.saved_fits)
    exact ⟨u, hopen, by rw [hindex, hentries]⟩

/-- A store is dropped with an entry that was not flushed. -/
def droppedRun : List StoreOperation :=
  [.call (.update [1] [2] .upsert), .call .flush, .call (.update [3] [4] .upsert),
    .drop "data" {}, .get [1], .get [3], .call (.update [] [4] .upsert), .close "data" {},
    .seek .above [0] [.up]]

/-- Only what was flushed is there after the store was dropped. -/
theorem refines_saved_of_dropped :
    ∃ s t, «open» "data" .absent { autoCommit := false } = .ok s ∧
      replies DurableStore.operate droppedRun s =
        ([.ok (.answer (.written ⟨true, true⟩)), .ok (.answer .finished),
          .ok (.answer (.written ⟨true, true⟩)), .ok .opened, .ok (.value (some [2])),
          .ok (.value none), .error .emptyKey, .ok .opened,
          .ok (.trail [some ([1], [2]), none])], t) := by
  obtain ⟨s, t, m, rs, hopen, hrun, hmemory, -⟩ := refines_saved "data"
    (show StoreOptions.check { autoCommit := false } = .ok () by decide) rfl droppedRun
    (by
      simp only [droppedRun, List.mem_cons, List.not_mem_nil, or_false, forall_eq_or_imp,
        forall_eq]
      unfold StoreOperation.Valid
      decide)
    (by decide)
  have hreplies : (replies SavedStore.operate droppedRun (.new { autoCommit := false })).1 =
      [.ok (.answer (.written ⟨true, true⟩)), .ok (.answer .finished),
        .ok (.answer (.written ⟨true, true⟩)), .ok .opened, .ok (.value (some [2])),
        .ok (.value none), .error .emptyKey, .ok .opened,
        .ok (.trail [some ([1], [2]), none])] := by decide
  rw [hmemory] at hreplies
  rw [← hreplies]
  exact ⟨s, t, hopen, hrun⟩

end DurableStore

end PagedTables
