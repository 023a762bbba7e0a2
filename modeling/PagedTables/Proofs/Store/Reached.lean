/-
# States of a store

The states that a store gets into from a new file, by calls in any order, by closing and
opening again, and by commits that fail before the meta page is written.

* `DurableStore.Reached` : these states, each with the checkpoint of the last commit that
  succeeded;
* `DurableStore.Accounts` : how long the free list can be after the commits so far;
* `DurableStore.Settled.commit_cases` : a commit leads to the next checkpoint, or is undone;
* `DurableStore.Reached.settled` : in all of these states the file holds that checkpoint;
* `DurableStore.Reached.exists_called` : calls without faults lead on from them;
* `DurableStore.exists_first_written` : the first write to a new file.
-/
import PagedTables.Proofs.Store.Calls
import PagedTables.Proofs.Store.Commit

namespace PagedTables

namespace DurableStore

variable {s t u : DurableStore} {c : Checkpoint} {h g : FreeHistory} {v : Nat}

/-- The length of the stream that a commit writes. -/
def streamLength (s : DurableStore) : Nat :=
  (Snapshot.encodeEntries s.index.entries.toList).length

/-- The store, where the next writes and syncs turn out as planned. -/
def withFaults (s : DurableStore) (faults : List Fault) : DurableStore :=
  { s with pages := { s.pages with disk := { s.pages.disk with faults := faults } } }

/-- The meta page as the file holds it. -/
def storedMeta (s : DurableStore) : Bytes :=
  storedPage s.pages.pageSize s.pages.disk.bytes PageId.metaPage

/-- The length of the stream that a call tries to commit. -/
def volume (s : DurableStore) (call : StoreCall) : Nat :=
  if call.commits s then
    (Snapshot.encodeEntries (call.contents s.index).entries.toList).length
  else 0

/-- The states of a store, each with the checkpoint of the last commit that succeeded, and with
the number of bytes that were to be committed so far. -/
inductive Reached : Checkpoint → Nat → DurableStore → Prop
  /-- A new file. -/
  | created {path : String} {status : FileStatus} {options : StoreOptions} {s : DurableStore} :
      status.bytes = [] → «open» path status options = .ok s → Reached s.checkpoint 0 s
  /-- A call that succeeds, with or without a commit. -/
  | called {c : Checkpoint} {v : Nat} {s t : DurableStore} {a : StoreAnswer} (call : StoreCall)
      (faults : List Fault) : Reached c v s → call.run (s.withFaults faults) = .ok a t →
      Reached (if call.commits s then t.checkpoint else c) (v + s.volume call) t
  /-- A call that fails, and has not changed the meta page of the file. -/
  | failed {c : Checkpoint} {v : Nat} {s t : DurableStore} {e : StoreError} (call : StoreCall)
      (faults : List Fault) : Reached c v s → call.run (s.withFaults faults) = .error e t →
      t.storedMeta = s.storedMeta → Reached c (v + s.volume call) t
  /-- The store is dropped, and its file opened again. -/
  | reopened {c : Checkpoint} {v : Nat} {s t : DurableStore} {path : String}
      {options : StoreOptions} : Reached c v s →
      «open» path (.present s.pages.disk.bytes) options = .ok t → Reached c v t

/-! ## Stores with the same file -/

/-- Whether a store is settled does not depend on the entries at hand. -/
theorem SameFile.settled (hst : s.SameFile t) (hs : s.Settled c h) : t.Settled c h := by
  rw [hst]
  exact ⟨hs.stored, hs.sound, hs.clean, hs.free_eq, hs.snapshot_eq, hs.pageCount_eq,
    hs.committed_eq⟩

theorem Settled.withFaults (hs : s.Settled c h) (faults : List Fault) :
    (s.withFaults faults).Settled c h :=
  ⟨hs.stored, ⟨hs.sound.cached_lt, hs.sound.length_cached, hs.sound.stored_le,
    hs.sound.clean_eq⟩, hs.clean, hs.free_eq, hs.snapshot_eq, hs.pageCount_eq, hs.committed_eq⟩

theorem Poised.withFaults {spare : List PageId} (hs : s.Poised h spare) (faults : List Fault) :
    (s.withFaults faults).Poised h spare := by
  have ht := hs.ready.tracks
  have hsound : s.pages.Sound := ht.sound
  exact ⟨hs.size_valid, ⟨⟨⟨hsound.cached_lt, hsound.length_cached, hsound.stored_le,
    hsound.clean_eq⟩, ht.capacity_eq, ht.list⟩, hs.ready.room⟩, hs.clean, hs.watermark_eq,
    hs.committed_eq⟩

theorem SameFile.poised {spare : List PageId} (hst : s.SameFile t) (hs : s.Poised h spare) :
    t.Poised h spare := by
  rw [hst]
  exact ⟨hs.size_valid, hs.ready, hs.clean, hs.watermark_eq, hs.committed_eq⟩

theorem HasRoomFor.withFaults {m : MemoryStore} (hroom : s.HasRoomFor m) (faults : List Fault) :
    (s.withFaults faults).HasRoomFor m :=
  ⟨⟨hroom.room.seq_lt, hroom.room.count_lt⟩, hroom.size_lt⟩

/-- What there is room for in a store can be committed by one with these entries. -/
theorem SameFile.hasRoomFor {m : MemoryStore} (hsu : s.SameFile u) (hm : m = u.index)
    (hroom : s.HasRoomFor m) : u.HasRoomFor u.index := by
  subst hm
  rw [hsu]
  exact ⟨⟨hroom.room.seq_lt, hroom.room.count_lt⟩, hroom.size_lt⟩

/-! ## The length of the free list -/

/-- Every page of a snapshot came from a stream, and enters the free list at most once; what
enters besides is a node of the list that is used up. -/
def Accounts (s : DurableStore) (v : Nat) : Prop :=
  s.free.tailSeq + s.snapshot.length ≤ v + s.free.nodeIndex s.free.headSeq

theorem SameFile.accounts (hst : s.SameFile t) (ha : s.Accounts v) : t.Accounts v := by
  rw [hst]
  exact ha

/-- Less than half of the items are used up nodes. -/
theorem Accounts.bounds (hs : s.Settled c h) (ha : s.Accounts v) :
    s.free.tailSeq ≤ 2 * v ∧ s.snapshot.length ≤ v ∧ s.pages.pageCount ≤ 4 * v + 2 := by
  have ht := hs.tracks
  have hroom : s.free.tailSeq < h.nodes.length * s.free.capacity := hs.ready.room
  have hseq : s.free.headSeq ≤ s.free.tailSeq := Nat.le_trans ht.headSeq_le ht.watermark_le
  -- a node has at least two slots
  have hhalf : ∀ n, s.free.nodeIndex n ≤ n / 2 := fun n =>
    Nat.div_le_div_left ht.two_le_capacity (by decide)
  have hhead := hhalf s.free.headSeq
  have htail := hhalf s.free.tailSeq
  have hsum : s.free.tailSeq + s.snapshot.length ≤ v + s.free.nodeIndex s.free.headSeq := ha
  have hlen := (ht.owners hroom).length_eq
  rw [List.length_append, List.length_append, List.length_append, List.length_range',
    FreeList.length_nodes, FreeList.length_items, List.length_nil] at hlen
  refine ⟨by omega, by omega, by omega⟩

/-- After less than an exabyte, 64-bit numbers are enough for the next commit. -/
theorem Accounts.hasRoom (hs : s.Settled c h) (ha : s.Accounts v)
    (hv : v + s.streamLength < 2 ^ 60) : s.HasRoom := by
  obtain ⟨hseq, hsnap, hcount⟩ := ha.bounds hs
  have hpayloads : s.payloads.length ≤ s.streamLength := Bytes.length_chunks_le
  exact ⟨by omega, by omega⟩

/-- The pages given to the free list are those of the old snapshot; those of the new one are as
many as there are payloads. -/
theorem Staged.accounts {ids : List PageId} (hst : s.Staged t ids h g) (ha : s.Accounts v)
    (f : PageFile) : (t.published ids f).Accounts (v + s.streamLength) := by
  have hadv : t.free.tailSeq + s.free.nodeIndex s.free.headSeq =
      s.free.tailSeq + s.snapshot.length + t.free.nodeIndex t.free.headSeq :=
    hst.advances.tailSeq_add
  have hpayloads : s.payloads.length ≤ s.streamLength := Bytes.length_chunks_le
  have hlen := hst.chain.length_eq
  have hsum : s.free.tailSeq + s.snapshot.length ≤ v + s.free.nodeIndex s.free.headSeq := ha
  show t.free.tailSeq + ids.length ≤ v + s.streamLength + t.free.nodeIndex t.free.headSeq
  omega

/-! ## One commit -/

/-- **A commit** leads to the next checkpoint; or it meets a fault, and is undone if the meta
page was not written. -/
theorem Settled.commit_cases (hs : s.Settled c h) (ha : s.Accounts v)
    (hv : v + s.streamLength < 2 ^ 60) :
    (∃ t g, commit s = .ok () t ∧ t.Settled t.checkpoint g ∧ t.Accounts (v + s.streamLength) ∧
      t.index = s.index ∧ t.options = s.options ∧ t.dirty = false ∧
      (s.pages.disk.faults = [] → t.pages.disk.faults = [])) ∨
    ∃ e t, commit s = .error e t ∧ s.pages.disk.faults ≠ [] ∧
      (t.storedMeta = s.storedMeta → t.Settled c h ∧ t.Accounts v) := by
  have hroom := ha.hasRoom hs hv
  have hsize : s.index.size < 2 ^ 64 := by
    have hle := Snapshot.length_le_length_encodeEntries s.index.entries.toList
    show s.index.entries.toList.length < 2 ^ 64
    unfold streamLength at hv
    omega
  obtain ⟨ids, t, g, f, -, hst, hw, ⟨hrun, hsealed⟩ | ⟨e, hrun, hfaults⟩⟩ :=
    commit_outcome hs hroom
  · have hp := hst.publishable hs.poised hroom hsize
    have hrest : ∀ {β : Type} (part : DurableStore → β),
        (∀ free pages, part { s with free := free, pages := pages } = part s) →
        part t = part s := by
      intro β part hpart
      rw [hst.rest_eq]
      exact hpart _ _
    refine Or.inl ⟨t.published ids f, { g with kept := t.free.headSeq }, hrun, ?_,
      hst.accounts ha f, hrest index fun _ _ => rfl, hrest options fun _ _ => rfl, rfl, ?_⟩
    · rw [hp.checkpoint_published hw hsealed]
      exact hp.settled_published hw hsealed
    · intro hnil
      exact hw.faults_nil (by rw [hst.filled.disk_eq]; exact hnil)
  · refine Or.inr ⟨e, s.rolledBack t f, hrun, hfaults, fun hmeta => ⟨?_, ?_⟩⟩
    · have hfsize : f.pageSize = s.pages.pageSize :=
        hw.pageSize_eq.trans hst.filled.pageSize_eq
      change storedPage f.pageSize f.disk.bytes PageId.metaPage = _ at hmeta
      rw [hfsize] at hmeta
      exact hst.settled_rolledBack hs hw hmeta
    · show s.free.tailSeq + t.snapshot.length ≤ v + s.free.nodeIndex s.free.headSeq
      rw [hst.filled.snapshot_eq]
      exact ha

/-! ## A new file -/

/-- A store without pages. -/
def blank (path : String) (options : StoreOptions) : DurableStore where
  options := options
  pages := PageFile.create path options.pageSize { bytes := [] }
  index := MemoryStore.ofOptions options
  free := FreeList.new 1 options.pageSize
  snapshot := []
  committedPages := 0
  dirty := false

/-- Adds the meta page and page 1. -/
def addFirstPages (size : Nat) : Action StoreError DurableStore Unit := do
  let _ ← onPages (PageFile.append (Bytes.zeros size))
  let _ ← onPages (PageFile.append (Bytes.zeros size))

/-- Creating a file adds two pages, and publishes an empty snapshot. -/
theorem create_eq (path : String) (options : StoreOptions) :
    create path { bytes := [] } options =
      match (addFirstPages options.pageSize >>= fun _ => publish PageId.null)
        (blank path options) with
      | .ok _ s => .ok s
      | .error e _ => .error e := by
  unfold create addFirstPages
  simp only [bind_assoc]
  rfl

/-- The first pages are there, and the second one is a node of the free list. -/
theorem addFirstPages_ok (path : String) {options : StoreOptions}
    (hvalid : options.check = .ok ()) :
    ∃ f, addFirstPages options.pageSize (blank path options) =
        .ok () { blank path options with pages := f } ∧
      ({ blank path options with pages := f } : DurableStore).Publishable ⟨[], [1], 0⟩ [] ∧
      f.pageSize = options.pageSize ∧ f.disk = { bytes := [] } := by
  have hsize := StoreOptions.validPageSize_of_check hvalid
  have hsound : (blank path options).pages.Sound :=
    ⟨nofun, nofun, fun hlt => absurd hlt (Nat.not_lt_zero _), nofun⟩
  have hlen : (Bytes.zeros options.pageSize).length =
      PageStore.pageSize (blank path options).pages :=
    Bytes.length_zeros options.pageSize
  obtain ⟨f₁, hrun₁, hbec₁⟩ := LawfulPageStore.append_ok hsound hlen
  obtain ⟨f₂, hrun₂, hbec₂⟩ := LawfulPageStore.append_ok hbec₁.sound
    (hlen.trans hbec₁.pageSize_eq.symm)
  have hpsize : f₂.pageSize = options.pageSize := hbec₂.pageSize_eq.trans hbec₁.pageSize_eq
  have hcount₁ : f₁.pageCount = 1 := hbec₁.pageCount_eq
  have hcount : f₂.pageCount = 2 :=
    (show f₂.pageCount = f₁.pageCount + 1 from hbec₂.pageCount_eq).trans (by rw [hcount₁])
  refine ⟨f₂, ?_, ?_, hpsize, ?_⟩
  · have hfirst : PageFile.append (Bytes.zeros options.pageSize) (blank path options).pages =
        .ok 0 f₁ := hrun₁
    have hsecond : PageFile.append (Bytes.zeros options.pageSize) f₁ = .ok f₁.pageCount f₂ :=
      hrun₂
    unfold addFirstPages
    rw [Action.bind_ok (onPages_ok hfirst)]
    exact Action.bind_ok (onPages_ok hsecond)
  · -- page 1 is the only node, and the list has no items
    have hcap := two_le_capacity hsize
    have htracks : (FreeList.new 1 options.pageSize).Tracks f₂.view 2 ⟨[], [1], 0⟩ [] [] :=
      FreeList.Tracks.new hcap Nat.one_pos Nat.one_lt_two
    refine ⟨?_, ⟨⟨hbec₂.sound, ?_, ?_⟩, ?_⟩, ?_, ?_, ?_, ?_⟩
    · show validPageSize f₂.pageSize = true
      rw [hpsize]
      exact hsize
    · show FreeNode.capacity options.pageSize = FreeNode.capacity f₂.pageSize
      rw [hpsize]
    · show (FreeList.new 1 options.pageSize).Tracks f₂.view f₂.pageCount ⟨[], [1], 0⟩ [] []
      rw [hcount]
      exact htracks
    · show 0 < 1 * FreeNode.capacity options.pageSize
      omega
    · exact .nil
    · exact Nat.two_pow_pos 64
    · exact Nat.two_pow_pos 64
    · show f₂.pageCount < 2 ^ 64
      rw [hcount]
      decide
  · exact (congrArg Prod.snd hbec₂.rest_eq).trans (congrArg Prod.snd hbec₁.rest_eq)

/-- **Creating a file** succeeds, and leads to an empty store. -/
theorem create_ok (path : String) {options : StoreOptions} (hvalid : options.check = .ok ()) :
    ∃ t g, create path { bytes := [] } options = .ok t ∧ t.Settled t.checkpoint g ∧
      t.Accounts 0 ∧ t.index = MemoryStore.ofOptions options ∧ t.options = options ∧
      t.dirty = false ∧ t.pages.disk.faults = [] := by
  have hbounds := bounds_of_validPageSize (StoreOptions.validPageSize_of_check hvalid)
  obtain ⟨k, hadd, hp, hpsize, hdisk⟩ := addFirstPages_ok path hvalid
  generalize ht : ({ blank path options with pages := k } : DurableStore) = t at hadd hp
  have htpages : t.pages = k := by rw [← ht]
  obtain ⟨f, hw, hout⟩ := publishPages_writes (s := t) (t.metaPage PageId.null)
    hp.ready.tracks.sound
    hp.list.one_lt_count (by rw [htpages, hpsize, MetaPage.size]; omega)
  rcases hout with ⟨_, hrun, hsealed⟩ | ⟨e, -, hfaults, -⟩
  · have hpublish : publish PageId.null t = .ok () (t.published [] f) := by
      rw [publish_ok hp.count_lt hrun, ← ht]
      rfl
    refine ⟨t.published [] f, { entered := [], nodes := [1], kept := t.free.headSeq }, ?_, ?_, ?_,
      ?_, ?_, rfl, ?_⟩
    · rw [create_eq, Action.bind_ok hadd, hpublish]
    · rw [hp.checkpoint_published hw hsealed]
      exact hp.settled_published hw hsealed
    · rw [← ht]
      exact Nat.zero_le _
    · rw [← ht]
      rfl
    · rw [← ht]
      rfl
    · exact hw.faults_nil (by rw [htpages, hdisk])
  · exact absurd (by rw [htpages, hdisk]) hfaults

/-- Only valid options open a store. -/
theorem check_of_open {path : String} {status : FileStatus} {options : StoreOptions}
    (hopen : «open» path status options = .ok s) : options.check = .ok () := by
  unfold «open» at hopen
  cases hcheck : options.check with
  | ok _ => rfl
  | error fault =>
    rw [hcheck] at hopen
    cases hopen

/-- Where there are no bytes, opening creates. -/
theorem create_of_open {path : String} {status : FileStatus} {options : StoreOptions}
    (hbytes : status.bytes = []) (hopen : «open» path status options = .ok s) :
    create path { bytes := [] } options = .ok s := by
  have hcheck := check_of_open hopen
  unfold «open» at hopen
  simp only [hcheck, hbytes, List.isEmpty_nil, Bool.not_true, Bool.false_eq_true, if_false] at hopen
  -- the file cannot be read, must not be created, or cannot be; else it is created
  split at hopen
  · cases hopen
  · split at hopen
    · cases hopen
    · split at hopen
      · cases hopen
      · exact hopen

/-- Opening a file that is not there creates it. -/
theorem open_absent (path : String) {options : StoreOptions} (hvalid : options.check = .ok ())
    (hcreate : options.createIfMissing = true) :
    «open» path .absent options = create path { bytes := [] } options := by
  unfold «open»
  rw [hvalid]
  simp only [FileStatus.bytes, hcreate, List.isEmpty_nil, Bool.not_true, Bool.false_eq_true,
    if_false, reduceCtorEq]

/-- A store in a new file is reached. -/
theorem reached_absent (path : String) {options : StoreOptions} (hvalid : options.check = .ok ())
    (hcreate : options.createIfMissing = true) :
    ∃ s, «open» path .absent options = .ok s ∧ Reached s.checkpoint 0 s ∧
      s.index = MemoryStore.ofOptions options ∧ s.options = options := by
  obtain ⟨t, g, hrun, -, -, hindex, hoptions, -⟩ := create_ok path hvalid
  rw [← open_absent path hvalid hcreate] at hrun
  exact ⟨t, hrun, .created rfl hrun, hindex, hoptions⟩

/-! ## One call -/

/-- The store `t` after a call that succeeds; a call that commits leads to a new checkpoint. -/
structure Completes (s t : DurableStore) (c : Checkpoint) (v : Nat) (call : StoreCall)
    (a : StoreAnswer) : Prop where
  run_eq : call.run s = .ok a t
  memory_eq : call.onMemory s.index = .ok a t.index
  settled : ∃ g, t.Settled (if call.commits s then t.checkpoint else c) g
  accounts : t.Accounts (v + s.volume call)
  options_eq : t.options = s.options
  dirty_eq : t.dirty = (!call.commits s && (s.dirty || a.changed))
  faults_nil : s.pages.disk.faults = [] → t.pages.disk.faults = []

theorem SameFile.storedMeta_eq (hsame : s.SameFile t) : t.storedMeta = s.storedMeta := by
  rw [hsame]
  rfl

section Commits

variable {a : StoreAnswer} {w : DurableStore} {call : StoreCall}
variable (hmemory : call.onMemory s.index = .ok a u.index) (hcommits : call.commits s = true)
include hmemory hcommits

/-- What a call tries to commit is the stream of the new entries. -/
theorem volume_of_commits : s.volume call = u.streamLength := by
  unfold volume streamLength StoreCall.contents Action.outcome
  rw [if_pos hcommits, hmemory]

variable (hs : s.Settled c h) (ha : s.Accounts v) (hv : v + s.volume call < 2 ^ 60)
variable (hsame : s.SameFile u)
include hs ha hv hsame

/-- A call whose commit succeeds leads to the checkpoint of the commit. -/
theorem Settled.completes_of_commit (hcommit : commit u = .ok () t)
    (hrun : call.run s = .ok a t) : s.Completes t c v call a := by
  have hvolume := volume_of_commits hmemory hcommits
  rw [hvolume] at hv
  rcases (hsame.settled hs).commit_cases (hsame.accounts ha) hv with
    ⟨w, g, hrun', hsettled, hacc, hindex, hoptions, hdirty, hfaults⟩ | ⟨e, w, hrun', -⟩
  · rw [hcommit] at hrun'
    injection hrun' with _ hw
    subst hw
    have hopt : u.options = s.options := by rw [hsame]
    have hpages : u.pages = s.pages := by rw [hsame]
    refine {
      run_eq := hrun
      memory_eq := by rw [hindex]; exact hmemory
      settled := ⟨g, by rw [hcommits]; exact hsettled⟩
      accounts := by rw [hvolume]; exact hacc
      options_eq := hoptions.trans hopt
      dirty_eq := by rw [hcommits]; exact hdirty
      faults_nil := ?_ }
    rw [← hpages]
    exact hfaults
  · rw [hcommit] at hrun'
    cases hrun'

/-- A call whose commit fails does so at a fault, and stays at the old checkpoint if the meta
page is not written. -/
theorem Settled.undone_of_commit {e : StoreError} (hcommit : commit u = .error e w)
    (hback : w.SameFile t) : s.pages.disk.faults ≠ [] ∧
      (t.storedMeta = s.storedMeta → t.Settled c h ∧ t.Accounts (v + s.volume call)) := by
  have hvolume := volume_of_commits hmemory hcommits
  rw [hvolume] at hv
  have hpages : u.pages = s.pages := by rw [hsame]
  rcases (hsame.settled hs).commit_cases (hsame.accounts ha) hv with
    ⟨x, g, hrun, -⟩ | ⟨e', x, hrun, hfaults, hundone⟩
  · rw [hcommit] at hrun
    cases hrun
  · rw [hcommit] at hrun
    injection hrun with _ hx
    subst hx
    rw [hpages] at hfaults
    refine ⟨hfaults, fun hmeta => ?_⟩
    rw [hback.storedMeta_eq, ← hsame.storedMeta_eq] at hmeta
    obtain ⟨hsettled, hacc⟩ := hundone hmeta
    have hle : w.Accounts (v + s.volume call) := Nat.le_trans hacc (Nat.add_le_add_right
      (Nat.le_add_right _ _) _)
    exact ⟨hback.settled hsettled, hback.accounts hle⟩

end Commits

/-- **One call** keeps a store settled, if it succeeds or has not written the meta page. Without
a fault it only fails like the same call on a store in memory. -/
theorem Settled.call_cases (hs : s.Settled c h) (ha : s.Accounts v) (call : StoreCall)
    (hv : v + s.volume call < 2 ^ 60) :
    (∃ a t, s.Completes t c v call a) ∨
    ∃ e t, call.run s = .error e t ∧
      (t.storedMeta = s.storedMeta → t.Settled c h ∧ t.Accounts (v + s.volume call)) ∧
      (s.pages.disk.faults = [] → t = s ∧ call.onMemory s.index = .error e s.index) := by
  have hvolume : call.commits s = false → s.volume call = 0 := by
    intro hcommits
    rw [volume, if_neg (by rw [hcommits]; decide)]
  cases call.ends s with
  | refused hmemory hcommits hrun =>
    rw [hvolume hcommits]
    exact Or.inr ⟨_, s, hrun, fun _ => ⟨hs, ha⟩, fun _ => ⟨rfl, hmemory⟩⟩
  | @kept a n hmemory hcommits hrun =>
    refine Or.inl ⟨a, _, hrun, hmemory, ⟨h, ?_⟩, ?_, rfl, ?_, fun hnil => hnil⟩
    · rw [hcommits]
      exact SameFile.settled rfl hs
    · rw [hvolume hcommits]
      exact ha
    · rw [hcommits]
      rfl
  | committed hmemory hcommits hsame hcommit hrun =>
    exact Or.inl ⟨_, _, hs.completes_of_commit hmemory hcommits ha hv hsame hcommit hrun⟩
  | undone hmemory hcommits hsame hcommit hrun hback =>
    obtain ⟨hfaults, hkept⟩ :=
      hs.undone_of_commit hmemory hcommits ha hv hsame hcommit hback
    exact Or.inr ⟨_, _, hrun, hkept, fun hnil => absurd hnil hfaults⟩

/-! ## All reached states -/

theorem commits_withFaults (call : StoreCall) (faults : List Fault) :
    call.commits (s.withFaults faults) = call.commits s := by
  cases call <;> rfl

theorem volume_withFaults (call : StoreCall) (faults : List Fault) :
    (s.withFaults faults).volume call = s.volume call := by
  unfold volume
  rw [commits_withFaults]
  rfl

/-- Stores with the same checkpoint have the same free list and snapshot. -/
theorem Settled.accounts_of_settled (hs : s.Settled c h) (ht : t.Settled c g)
    (hsize : t.pages.pageSize = s.pages.pageSize) (ha : s.Accounts v) : t.Accounts v := by
  unfold Accounts at ha ⊢
  rw [ht.free_eq, ht.snapshot_eq, hsize, ← hs.free_eq, ← hs.snapshot_eq]
  exact ha

/-- **In every reached state** the file holds the checkpoint of the last commit. -/
theorem Reached.settled (hr : Reached c v s) (hv : v < 2 ^ 60) :
    (∃ h, s.Settled c h) ∧ s.Accounts v := by
  induction hr with
  | created hbytes hopen =>
    obtain ⟨t, g, hcreate, hsettled, hacc, -⟩ := create_ok _ (check_of_open hopen)
    rw [create_of_open hbytes hopen] at hcreate
    obtain rfl := Except.ok.inj hcreate
    exact ⟨⟨g, hsettled⟩, hacc⟩
  | @called c v s t a call faults hr hrun ih =>
    obtain ⟨⟨h, hs⟩, ha⟩ := ih (by omega)
    rw [← volume_withFaults call faults, ← commits_withFaults call faults] at *
    rcases (hs.withFaults faults).call_cases ha call hv with ⟨b, u, hdone⟩ | ⟨e, u, hrun', -⟩
    · rw [hdone.run_eq] at hrun
      injection hrun with _ hu
      subst hu
      exact ⟨hdone.settled, hdone.accounts⟩
    · rw [hrun'] at hrun
      cases hrun
  | @failed c v s t e call faults hr hrun hmeta ih =>
    -- a failed call leaves the old meta page, so the old checkpoint stays
    obtain ⟨⟨h, hs⟩, ha⟩ := ih (by omega)
    rw [← volume_withFaults call faults] at *
    rcases (hs.withFaults faults).call_cases ha call hv with ⟨b, u, hdone⟩ | ⟨e, u, hrun', hkept, -⟩
    · rw [hdone.run_eq] at hrun
      cases hrun
    · rw [hrun'] at hrun
      injection hrun with _ hu
      subst hu
      obtain ⟨hsettled, hacc⟩ := hkept hmeta
      exact ⟨⟨h, hsettled⟩, hacc⟩
  | reopened hr hopen ih =>
    -- the file is all that is left, and it holds the checkpoint
    obtain ⟨⟨h, hs⟩, ha⟩ := ih hv
    obtain ⟨ht, hsize⟩ := settled_of_open (check_of_open hopen) hs.stored hopen
    exact ⟨⟨h, ht⟩, hs.accounts_of_settled ht hsize ha⟩

/-- **Without faults** a call succeeds in a reached store if it does in memory. -/
theorem Reached.exists_called {a : StoreAnswer} {m : MemoryStore} {call : StoreCall}
    (hr : Reached c v s) (hv : v + s.volume call < 2 ^ 60)
    (hmemory : call.onMemory s.index = .ok a m) :
    ∃ t, call.run (s.withFaults []) = .ok a t ∧ t.index = m ∧
      Reached (if call.commits s then t.checkpoint else c) (v + s.volume call) t := by
  obtain ⟨⟨h, hs⟩, ha⟩ := hr.settled (by omega)
  rw [← volume_withFaults call []] at hv
  rcases (hs.withFaults []).call_cases ha call hv with ⟨b, t, hdone⟩ | ⟨e, t, -, -, hrefused⟩
  · have hsame : EStateM.Result.ok a m = .ok b t.index := hmemory.symm.trans hdone.memory_eq
    injection hsame with hab hindex
    subst hab
    exact ⟨t, hdone.run_eq, hindex.symm, .called call [] hr hdone.run_eq⟩
  · have hsame : EStateM.Result.ok a m = .error e _ := hmemory.symm.trans (hrefused rfl).2
    cases hsame

/-- **The first write** to a new file, which is committed at once. -/
theorem exists_first_written (path : String) {options : StoreOptions}
    (hvalid : options.check = .ok ()) (hcreate : options.createIfMissing = true)
    (hauto : options.autoCommit = true) {key value : Bytes}
    (hcheck : (MemoryStore.ofOptions options).checkEntry key value = .ok ())
    (hlength : key.length + value.length + 8 < 2 ^ 60) :
    ∃ s t, «open» path .absent options = .ok s ∧
      (StoreCall.update key value .upsert).run (s.withFaults []) = .ok (.written ⟨true, true⟩) t ∧
      t.checkpoint.entries.toList = [(key, value)] ∧
      Reached t.checkpoint (key.length + value.length + 8) t := by
  obtain ⟨s, hopen, hr, hindex, hoptions⟩ := reached_absent path hvalid hcreate
  have hput : s.index.put key value .upsert = .ok (⟨true, true⟩, s.index.load key value) := by
    rw [hindex, MemoryStore.put, hcheck]
    rfl
  have hmemory : (StoreCall.update key value .upsert).onMemory s.index =
      .ok (.written ⟨true, true⟩) (s.index.load key value) := by
    rw [StoreCall.onMemory_update, hput]
  have hcommits : (StoreCall.update key value .upsert).commits s = true := by
    show (s.options.autoCommit && StoreCall.changes s.index _) = true
    rw [StoreCall.changes_of_ok hmemory, hoptions, hauto]
    rfl
  have hentries : (s.index.load key value).entries.toList = [(key, value)] := by
    rw [hindex]
    rfl
  have hvolume : s.volume (.update key value .upsert) = key.length + value.length + 8 := by
    rw [volume, if_pos hcommits, StoreCall.contents_of_ok hmemory, hentries,
      Snapshot.encodeEntries_cons, List.length_append, List.length_append,
      Snapshot.length_encodeField, Snapshot.length_encodeField]
    show key.length + 4 + (value.length + 4 + 0) = _
    omega
  obtain ⟨t, hrun, htindex, ht⟩ := hr.exists_called (by omega) hmemory
  rw [if_pos hcommits, hvolume, Nat.zero_add] at ht
  refine ⟨s, t, hopen, hrun, ?_, ht⟩
  rw [← hentries, ← htindex]
  rfl

end DurableStore

end PagedTables
