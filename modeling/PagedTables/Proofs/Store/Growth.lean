/-
# The size of a file

Page numbers are reused, so a file does not grow with the number of commits. A commit adds pages
only once every free page is taken; then what the file holds are the old snapshot, the new one,
the nodes that were used up meanwhile, and the nodes of the list.

* `PagePool.Ready.pageCount_eq` : the number of pages by what they are used for;
* `DurableStore.Staged.pageCount_le` : what one commit adds;
* `DurableStore.Steady` : the bound, as commits and openings keep it;
* `DurableStore.Grown.pageCount_bounded` : the bound in every run.
-/
import PagedTables.Proofs.Store.Rollback

namespace PagedTables

/-! ## Counting pages -/

/-- A node of the smallest valid page has fifteen slots. -/
theorem fifteen_le_capacity {size : Nat} (h : validPageSize size = true) :
    15 ≤ FreeNode.capacity size := by
  have := bounds_of_validPageSize h
  simp only [FreeNode.capacity, FreeNode.headerSize, FreeNode.slotSize]
  omega

namespace FreeList

variable {l : FreeList} {a b : Nat}

/-- Items that lie next to each other do not begin more nodes than one in fifteen, and one. -/
theorem nodeIndex_sub_le (hcap : 15 ≤ l.capacity) (hab : a ≤ b) :
    15 * (l.nodeIndex b - l.nodeIndex a) ≤ b - a + 14 := by
  cases hk : l.nodeIndex b - l.nodeIndex a with
  | zero => omega
  | succ k =>
    -- the nodes between the first and the last one are full
    have ha : a < l.capacity * (l.nodeIndex a + 1) := Nat.lt_mul_div_succ a (by omega)
    have hb : l.capacity * l.nodeIndex b ≤ b := Nat.mul_div_le b l.capacity
    have hindex : l.nodeIndex b = l.nodeIndex a + 1 + k := by omega
    rw [hindex, Nat.mul_add] at hb
    have hfull : 15 * k ≤ l.capacity * k := Nat.mul_le_mul_right k hcap
    omega

end FreeList

namespace PagePool

variable {σ : Type} [PageStore σ] [PageView σ] {p : PagePool σ} {h : FreeHistory}
variable {held : List PageId}

/-- Besides the meta page there are the held pages, the nodes and the items. -/
theorem Ready.pageCount_eq (hp : p.Ready h held) : PageStore.pageCount p.pages =
    2 + held.length + (p.free.nodeIndex p.free.tailSeq - p.free.nodeIndex p.free.headSeq) +
      (p.free.tailSeq - p.free.headSeq) := by
  have hlen := (hp.tracks.list.owners hp.room).length_eq
  have hpos := hp.tracks.list.count_pos
  rw [List.length_append, List.length_append, List.length_append, List.length_range',
    FreeList.length_nodes, FreeList.length_items, List.length_nil] at hlen
  omega

end PagePool

namespace DurableStore

variable {s t u : DurableStore} {c : Checkpoint} {h g : FreeHistory} {ids : List PageId}
variable {S : Nat}

/-! ## One commit -/

/-- **A commit** keeps the bound. If it adds pages, all items that could leave have left, and
the list holds only what entered during the commit. -/
theorem Staged.pageCount_le (hs : s.Settled c h) (hst : s.Staged t ids h g)
    (hfrugal : s.pool.Frugal t.pool) (hold : s.snapshot.length ≤ S) (hnew : ids.length ≤ S)
    (hcount : s.pages.pageCount ≤ 3 * S + 6) : t.pages.pageCount ≤ 3 * S + 6 := by
  rcases Nat.lt_or_ge s.pages.pageCount t.pages.pageCount with hlt | hle
  · have hcap : 15 ≤ s.free.capacity := by
      rw [hs.free_eq]
      exact fifteen_le_capacity hs.stored.size_valid
    have hmark : s.free.watermark = s.free.tailSeq := by
      rw [hs.free_eq]
      rfl
    have hhead : t.free.headSeq = s.free.tailSeq := by
      have happended : t.free.headSeq = t.free.watermark := hfrugal.appended hlt
      have hwater : t.free.watermark = s.free.watermark := hfrugal.watermark_eq
      rw [happended, hwater, hmark]
    have hnode : t.free.nodeIndex = s.free.nodeIndex := by
      funext n
      have hcap' : t.free.capacity = s.free.capacity := hst.grows.capacity_eq
      rw [FreeList.nodeIndex, FreeList.nodeIndex, hcap']
    have hseq : s.free.headSeq ≤ s.free.tailSeq := by
      rw [← hmark]
      exact hs.tracks.headSeq_le
    have hbefore : s.pages.pageCount = 2 + s.snapshot.length +
        (s.free.nodeIndex s.free.tailSeq - s.free.nodeIndex s.free.headSeq) +
        (s.free.tailSeq - s.free.headSeq) := hs.ready.pageCount_eq
    have hafter : t.pages.pageCount = 2 + ids.length +
        (t.free.nodeIndex t.free.tailSeq - t.free.nodeIndex t.free.headSeq) +
        (t.free.tailSeq - t.free.headSeq) := hst.ready.pageCount_eq
    have hentered : t.free.tailSeq + s.free.nodeIndex s.free.headSeq =
        s.free.tailSeq + s.snapshot.length + t.free.nodeIndex t.free.headSeq :=
      hst.advances.tailSeq_add
    rw [hnode, hhead] at hafter hentered
    have hused : s.free.nodeIndex s.free.headSeq ≤ s.free.nodeIndex s.free.tailSeq :=
      Nat.div_le_div_right hseq
    have htail : s.free.tailSeq ≤ t.free.tailSeq := by omega
    have hold' := FreeList.nodeIndex_sub_le hcap hseq
    have hnew' := FreeList.nodeIndex_sub_le hcap htail
    omega
  · exact Nat.le_trans hle hcount

/-! ## Runs -/

/-- The file holds a checkpoint, and does not exceed the bound for snapshots of `S` pages. -/
structure Steady (S : Nat) (s : DurableStore) : Prop where
  settled : ∃ c h, s.Settled c h
  faults_nil : s.pages.disk.faults = []
  snapshot_le : s.snapshot.length ≤ S
  pageCount_le : s.pages.pageCount ≤ 3 * S + 6

/-- The states of a store since its file was created, by calls, closing and opening in any
number and without faults, where no snapshot took more than `S` pages. -/
inductive Grown (S : Nat) : DurableStore → Prop
  /-- A new file. -/
  | created {path : String} {status : FileStatus} {options : StoreOptions} {s : DurableStore} :
      status.bytes = [] → «open» path status options = .ok s → Grown S s
  /-- A call that succeeds, with or without a commit. -/
  | called {s t : DurableStore} {a : StoreAnswer} (call : StoreCall) : Grown S s →
      (call.commits s = true → s.HasRoomFor (call.contents s.index)) →
      call.run s = .ok a t → t.snapshot.length ≤ S → Grown S t
  /-- A call that fails. -/
  | refused {s t : DurableStore} {e : StoreError} (call : StoreCall) : Grown S s →
      (call.commits s = true → s.HasRoomFor (call.contents s.index)) →
      call.run s = .error e t → Grown S t
  /-- The store is dropped, and its file opened again. -/
  | reopened {s t : DurableStore} {path : String} {options : StoreOptions} : Grown S s →
      «open» path (.present s.pages.disk.bytes) options = .ok t → Grown S t

theorem SameFile.steady (hsu : s.SameFile u) (hs : s.Steady S) : u.Steady S := by
  obtain ⟨⟨c, h, hsettled⟩, hfaults, hsnapshot, hcount⟩ := hs
  have hu := hsu.settled hsettled
  rw [hsu] at hu ⊢
  exact ⟨⟨c, h, hu⟩, hfaults, hsnapshot, hcount⟩

/-- Without faults a commit succeeds, and keeps the bound if the snapshot is small enough. -/
theorem Steady.commit_ok (hs : s.Steady S) (hroom : s.HasRoomFor s.index) :
    ∃ ids t w, stage s = .ok ids t ∧ commit s = .ok () w ∧ w.snapshot = ids ∧
      (ids.length ≤ S → t.pages.pageCount ≤ 3 * S + 6 ∧ w.Steady S) := by
  obtain ⟨⟨c, h, hsettled⟩, hfaults, hsnapshot, hcount⟩ := hs
  obtain ⟨ids, t, g, f, hstage, hst, hw, ⟨hrun, hsealed⟩ | ⟨e, -, hfaults'⟩⟩ :=
    commit_outcome hsettled hroom.room
  · refine ⟨ids, t, t.published ids f, hstage, hrun, rfl, fun hlen => ?_⟩
    have hp := hst.publishable hsettled.poised hroom.room hroom.size_lt
    have hbound := hst.pageCount_le hsettled (drafts_stage.ok hstage).frugal hsnapshot hlen hcount
    refine ⟨hbound, ⟨_, _, hp.settled_published hw hsealed⟩, ?_, hlen, ?_⟩
    · exact hw.faults_nil (by rw [hst.filled.disk_eq]; exact hfaults)
    · show f.pageCount ≤ _
      rw [hw.pageCount_eq]
      exact hbound
  · exact absurd hfaults hfaults'

/-- A call that succeeds keeps the bound. -/
theorem Steady.of_call_ok {call : StoreCall} {a : StoreAnswer} (hs : s.Steady S)
    (hroom : call.commits s = true → s.HasRoomFor (call.contents s.index))
    (hrun : call.run s = .ok a t) (hle : t.snapshot.length ≤ S) : t.Steady S := by
  rcases StoreCall.ok_cases hrun with ⟨-, -, ht⟩ | ⟨hcommits, u, hsame, hm, hcommit⟩
  · rw [ht]
    exact SameFile.steady rfl hs
  · obtain ⟨ids, _, w, -, hw, hids, hbound⟩ :=
      (hsame.steady hs).commit_ok (hsame.hasRoomFor hm (hroom hcommits))
    rw [hcommit] at hw
    injection hw with _ hw
    subst hw
    exact (hbound (by rwa [← hids])).2

/-- Without faults, only a call that does nothing fails. -/
theorem Steady.of_call_error {call : StoreCall} {e : StoreError} (hs : s.Steady S)
    (hroom : call.commits s = true → s.HasRoomFor (call.contents s.index))
    (hrun : call.run s = .error e t) : t = s := by
  rcases StoreCall.error_cases hrun with ⟨-, ht⟩ | ⟨hcommits, u, w, hsame, hm, hcommit, -⟩
  · exact ht
  · obtain ⟨_, _, w, -, hw, -⟩ :=
      (hsame.steady hs).commit_ok (hsame.hasRoomFor hm (hroom hcommits))
    rw [hcommit] at hw
    cases hw

/-- Opening leads to a file with the same pages. -/
theorem Steady.of_open {path : String} {options : StoreOptions} (hs : s.Steady S)
    (hopen : «open» path (.present s.pages.disk.bytes) options = .ok t) : t.Steady S := by
  obtain ⟨⟨c, h, hsettled⟩, -, hsnapshot, hcount⟩ := hs
  obtain ⟨ht, -⟩ := settled_of_open (check_of_open hopen) hsettled.stored hopen
  refine ⟨⟨c, h, ht⟩, ?_, ?_, ?_⟩
  · exact (opened_of_open hopen).faults_nil
  · rw [ht.snapshot_eq, ← hsettled.snapshot_eq]
    exact hsnapshot
  · rw [ht.pageCount_eq, ← hsettled.pageCount_eq]
    exact hcount

/-- All states of a run stay within the bound. -/
theorem Grown.steady (hs : Grown S s) : s.Steady S := by
  induction hs with
  | created hbytes hopen =>
    obtain ⟨t, g, hcreate, hsettled, haccounts, -, -, -, hfaults⟩ :=
      create_ok _ (check_of_open hopen)
    rw [create_of_open hbytes hopen] at hcreate
    obtain rfl := Except.ok.inj hcreate
    obtain ⟨-, hsnapshot, hcount⟩ := haccounts.bounds hsettled
    exact ⟨⟨_, _, hsettled⟩, hfaults, by omega, by omega⟩
  | called call _ hroom hrun hle ih => exact ih.of_call_ok hroom hrun hle
  | refused call _ hroom hrun ih => exact ih.of_call_error hroom hrun ▸ ih
  | reopened _ hopen ih => exact ih.of_open hopen

/-- **The size of a file is bounded**, however many commits are made. The bound also holds
during a commit of any entries whose snapshot is small enough, when all its pages are there. -/
theorem Grown.pageCount_bounded (hs : Grown S s) : s.pages.pageCount ≤ 3 * S + 6 ∧
    ∀ m ids t, s.HasRoomFor m → stage { s with index := m } = .ok ids t → ids.length ≤ S →
      t.pages.pageCount ≤ 3 * S + 6 := by
  refine ⟨hs.steady.pageCount_le, fun m ids t hroom hstage hlen => ?_⟩
  have hsteady : Steady S { s with index := m } := SameFile.steady (s := s) rfl hs.steady
  obtain ⟨ids', t', w, hstage', -, -, hbound⟩ := hsteady.commit_ok ⟨hroom.room, hroom.size_lt⟩
  rw [hstage] at hstage'
  injection hstage' with hids ht
  subst hids ht
  exact (hbound hlen).1

/-- A new file after two commits of one page each. -/
theorem pageCount_bounded_of_two_commits : ∃ s a t b u,
    «open» "data" .absent { pageSize := 128 } = .ok s ∧
    (StoreCall.update [1] [2] .upsert).run s = .ok a t ∧
    (StoreCall.update [1] [3] .upsert).run t = .ok b u ∧ u.snapshot.length = 1 ∧
    u.pages.pageCount ≤ 3 * 1 + 6 := by
  have hrun : Except.succeeds («open» "data" .absent { pageSize := 128 }) (fun s =>
      decide (s.HasRoomFor ((StoreCall.update [1] [2] .upsert).contents s.index)) &&
        (StoreCall.update [1] [2] .upsert).run.succeeds s fun t =>
          decide (t.snapshot.length = 1) &&
          decide (t.HasRoomFor ((StoreCall.update [1] [3] .upsert).contents t.index)) &&
            (StoreCall.update [1] [3] .upsert).run.succeeds t fun u =>
              decide (u.snapshot.length = 1)) = true := by
    decide +kernel
  obtain ⟨s, hopen, hrun⟩ := Except.exists_of_succeeds hrun
  rw [Bool.and_eq_true, decide_eq_true_iff] at hrun
  obtain ⟨hroom, hrun⟩ := hrun
  obtain ⟨a, t, hfirst, hrun⟩ := Action.exists_of_succeeds hrun
  simp only [Bool.and_eq_true, decide_eq_true_iff] at hrun
  obtain ⟨⟨ht, hroom'⟩, hrun⟩ := hrun
  obtain ⟨b, u, hsecond, hu⟩ := Action.exists_of_succeeds hrun
  rw [decide_eq_true_iff] at hu
  have hgrown : Grown 1 t :=
    (Grown.created rfl hopen).called _ (fun _ => hroom) hfirst (Nat.le_of_eq ht)
  have hgrown' : Grown 1 u := hgrown.called _ (fun _ => hroom') hsecond (Nat.le_of_eq hu)
  exact ⟨s, a, t, b, u, hopen, hfirst, hsecond, hu, hgrown'.pageCount_bounded.1⟩

end DurableStore

end PagedTables
