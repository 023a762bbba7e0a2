/-
# The free list is a queue with a watermark

Calls of a free list in any order, with a record of what enters at the tail and of what leaves
at the head. Besides the pages that the user pushes and pops, used-up head nodes enter, and
items leave to become nodes.

* `FreeTrace` : a free list with the record of its calls;
* `FreeTrace.Reached` : what calls in any order lead to;
* `FreeTrace.fifo_of_reached` : no call fails, and what leaves is what entered, in that order,
  up to the watermark.
-/
import PagedTables.Proofs.FreeList.Queue
import PagedTables.Proofs.FreeList.Steps

namespace PagedTables

open PageView (page)

/-! ## Records of calls -/

/-- A call of a free list. -/
inductive FreeCall where
  /-- A page enters at the tail. -/
  | push (id : PageId)
  /-- A page leaves at the head, if one may. -/
  | pop
  /-- All items may leave. -/
  | raise
  deriving DecidableEq, Repr

/-- A free list with the record of its calls. -/
structure FreeTrace (σ : Type) where
  /-- The free list with its pages. -/
  pool : PagePool σ
  /-- All that entered at the tail so far, in order. -/
  arrived : List PageId
  /-- All that left at the head so far, in order. -/
  left : List PageId
  /-- What had entered when the watermark was raised last. -/
  ready : List PageId

namespace FreeTrace

variable {σ : Type} [PageStore σ] [PageView σ]

/-- A new free list on a node. -/
def start (s : σ) (node : PageId) : FreeTrace σ :=
  ⟨⟨FreeList.new node (PageStore.pageSize s), s⟩, [], [], []⟩

/-- The nodes of the list. -/
def nodes (t : FreeTrace σ) : List PageId :=
  t.pool.free.nodes (page t.pool.pages)

/-- The items of the list. -/
def items (t : FreeTrace σ) : List PageId :=
  t.pool.free.items (page t.pool.pages)

/-- Records that a call led to `q`. Nodes that are no nodes any more entered, and old pages that
are new nodes left. -/
def record (t : FreeTrace σ) (q : PagePool σ) (pushed popped : List PageId) : FreeTrace σ where
  pool := q
  arrived := t.arrived ++
    (pushed ++ t.nodes.filter fun id => decide (id ∉ q.free.nodes (page q.pages)))
  left := t.left ++ (popped ++ (q.free.nodes (page q.pages)).filter fun id =>
    decide (id ∉ t.nodes ∧ id < PageStore.pageCount t.pool.pages))
  ready := t.ready

/-- Makes a call and records it. -/
def call (t : FreeTrace σ) : FreeCall → Except StoreError (FreeTrace σ)
  | .push id =>
    match PagePool.pushTail id t.pool with
    | .ok _ q => .ok (t.record q [id] [])
    | .error e _ => .error e
  | .pop =>
    match PagePool.popHead t.pool with
    | .ok answer q => .ok (t.record q [] answer.toList)
    | .error e _ => .error e
  | .raise =>
    .ok { t with
      pool := ⟨t.pool.free.raiseWatermark, t.pool.pages⟩
      ready := t.arrived }

/-- A user pushes only existing pages other than the meta page that the list does not have. -/
def Allows (t : FreeTrace σ) : FreeCall → Prop
  | .push id =>
    0 < id ∧ id < PageStore.pageCount t.pool.pages ∧ id ∉ t.nodes ∧ id ∉ t.items
  | .pop | .raise => True

instance (t : FreeTrace σ) (c : FreeCall) : Decidable (t.Allows c) :=
  match c with
  | .push _ => inferInstanceAs (Decidable (_ ∧ _ ∧ _ ∧ _))
  | .pop | .raise => inferInstanceAs (Decidable True)

/-- The records that `n` allowed calls lead to, in any order. -/
inductive Reached (s : σ) (node : PageId) : Nat → FreeTrace σ → Prop
  | start : Reached s node 0 (start s node)
  | call {n : Nat} {t u : FreeTrace σ} (c : FreeCall) : Reached s node n t → t.Allows c →
      t.call c = .ok u → Reached s node (n + 1) u

/-- What leaves is what entered, in that order, up to the watermark. -/
structure Fifo (t : FreeTrace σ) : Prop where
  headSeq_le : t.pool.free.headSeq ≤ t.pool.free.watermark
  watermark_le : t.pool.free.watermark ≤ t.pool.free.tailSeq
  arrived_eq : t.arrived = t.left ++ t.items
  length_left : t.left.length = t.pool.free.headSeq
  length_ready : t.ready.length = t.pool.free.watermark
  length_arrived : t.arrived.length = t.pool.free.tailSeq
  left_prefix : t.left <+: t.ready
  ready_prefix : t.ready <+: t.arrived
  nodup : (t.nodes ++ t.items).Nodup

/-! ## The record and the history -/

/-- The record agrees with a history of the list. -/
structure Follows (t : FreeTrace σ) (h : FreeHistory) (held : List PageId) : Prop where
  pool : t.pool.Ready h held
  arrived_eq : t.arrived = h.entered
  left_eq : t.left = h.entered.take t.pool.free.headSeq
  ready_eq : t.ready = h.entered.take t.pool.free.watermark

variable {t u : FreeTrace σ} {q : PagePool σ} {h g : FreeHistory}
variable {held held' pushed popped grown : List PageId} {s : σ} {node n : Nat}

/-- The nodes of the list are those of its history that are not used up. -/
theorem Follows.nodes_eq (hf : t.Follows h held) :
    t.nodes = h.nodes.drop (t.pool.free.nodeIndex t.pool.free.headSeq) :=
  hf.pool.tracks.list.nodes_eq hf.pool.room

/-- The items of the list are those that have entered and not left. -/
theorem Follows.items_eq (hf : t.Follows h held) :
    t.items = h.entered.drop t.pool.free.headSeq :=
  hf.pool.tracks.list.items_eq

/-- A list with a history is first in, first out. -/
theorem Follows.fifo (hf : t.Follows h held) : t.Fifo := by
  have ht := hf.pool.tracks.list
  have hhead := ht.headSeq_le
  have hmark := ht.watermark_le
  have htail := ht.tailSeq_eq
  refine {
    headSeq_le := hhead
    watermark_le := hmark
    arrived_eq := ?_
    length_left := ?_
    length_ready := ?_
    length_arrived := ?_
    left_prefix := ?_
    ready_prefix := ?_
    nodup := ?_ }
  · rw [hf.arrived_eq, hf.left_eq, hf.items_eq, List.take_append_drop]
  · rw [hf.left_eq, List.length_take]
    omega
  · rw [hf.ready_eq, List.length_take]
    omega
  · rw [hf.arrived_eq, htail]
  · rw [hf.left_eq, hf.ready_eq]
    exact List.take_prefix_take_left hhead
  · rw [hf.ready_eq, hf.arrived_eq]
    exact List.take_prefix _ _
  · have hnodup := ht.nodup
    rw [hf.nodes_eq, hf.items_eq]
    rw [List.nil_append, List.append_assoc] at hnodup
    exact hnodup.of_append_right

/-- A page that is neither a node nor an item is held. -/
theorem Follows.mem_held (hf : t.Follows h held) {id : Nat} (hpos : 0 < id)
    (hlt : id < PageStore.pageCount t.pool.pages) (hnode : id ∉ t.nodes) (hitem : id ∉ t.items) :
    id ∈ held := by
  have hrange : id ∈ List.range' 1 (PageStore.pageCount t.pool.pages - 1) := by
    rw [List.mem_range'_1, Nat.add_sub_cancel' (by omega)]
    exact ⟨hpos, hlt⟩
  have hown := hf.pool.tracks.list.partition.mem_iff.mpr hrange
  rw [hf.nodes_eq] at hnode
  rw [hf.items_eq] at hitem
  simp only [List.mem_append, hnode, hitem, List.not_mem_nil, false_or, or_false] at hown
  exact hown

/-! ### From one state to the next -/

section Record

variable (hf : t.Follows h held) (hq : q.Ready g held') (hext : t.pool.Extends q h g held held')
include hf hq hext

/-- No more items have left than have entered. -/
theorem Follows.headSeq_le_length : q.free.headSeq ≤ h.entered.length := by
  have hmark := hf.pool.tracks.list.watermark_le
  have htail := hf.pool.tracks.list.tailSeq_eq
  have hhead := hq.tracks.list.headSeq_le
  rw [hext.watermark_eq] at hhead
  omega

/-- The nodes before are those that are used up and those that stay. -/
theorem Follows.nodes_before :
    t.nodes = t.pool.usedUp q h ++ h.nodes.drop (q.free.nodeIndex q.free.headSeq) := by
  have hsplit := PagePool.run_append h.nodes hext.nodeIndex_le
    (Nat.le_of_lt (hext.nodeIndex_lt hf.pool hq))
  rw [List.take_length] at hsplit
  rw [hf.nodes_eq]
  exact hsplit.symm

variable (hmoves : t.pool.Moves q h g pushed popped grown)
include hmoves

/-- The nodes after are those that stay and the new ones. -/
theorem Follows.nodes_after : q.free.nodes (page q.pages) =
    h.nodes.drop (q.free.nodeIndex q.free.headSeq) ++ grown := by
  rw [hq.tracks.list.nodes_eq hq.room, hmoves.nodes_eq,
    List.drop_append_of_le_length (Nat.le_of_lt (hext.nodeIndex_lt hf.pool hq))]

/-- A new node was no node before. -/
theorem Follows.notMem_nodes_of_grown {id : Nat} (hid : id ∈ grown) : id ∉ t.nodes := by
  have ht := hf.pool.tracks.list
  rw [hf.nodes_eq]
  intro hnode
  -- it is an old page, so it was an item that left
  have hmem : id ∈ t.pool.departed q g := by
    rw [hmoves.departed_eq]
    apply List.mem_append_right
    rw [List.mem_filter, decide_eq_true_iff]
    exact ⟨hid, (ht.node_range hnode).2⟩
  obtain ⟨rest, hrest⟩ := hext.entered_prefix
  rw [PagePool.departed, ← hrest,
    List.take_append_of_le_length (hf.headSeq_le_length hq hext)] at hmem
  have hitem : id ∈ h.entered.drop t.pool.free.headSeq :=
    ((List.take_sublist _ _).drop _).subset hmem
  exact ht.notMem_item_of_node hnode hitem

/-- The nodes that are gone are those that are used up. -/
theorem Follows.filter_nodes_before :
    (t.nodes.filter fun id => decide (id ∉ q.free.nodes (page q.pages))) =
      t.pool.usedUp q h := by
  have hbefore := hf.nodes_before hq hext
  have hafter := hf.nodes_after hq hext hmoves
  have hnodup := hf.pool.tracks.list.nodup_nodes
  rw [← hf.nodes_eq, hbefore, List.nodup_append] at hnodup
  rw [hbefore, List.filter_append, List.filter_eq_self.mpr, List.filter_eq_nil_iff.mpr,
    List.append_nil]
  · intro id hid
    simp [hafter, hid]
  · intro id hid
    rw [decide_eq_true_iff, hafter, List.mem_append]
    rintro (hstay | hgrown)
    · exact hnodup.2.2 id hid id hstay rfl
    · apply hf.notMem_nodes_of_grown hq hext hmoves hgrown
      rw [hbefore]
      exact List.mem_append_left _ hid

/-- The old pages among the nodes that are there now and were not before are the new nodes that
were items. -/
theorem Follows.filter_nodes_after :
    ((q.free.nodes (page q.pages)).filter fun id =>
        decide (id ∉ t.nodes ∧ id < PageStore.pageCount t.pool.pages)) =
      grown.filter fun id => decide (id < PageStore.pageCount t.pool.pages) := by
  rw [hf.nodes_after hq hext hmoves, List.filter_append, List.filter_eq_nil_iff.mpr,
    List.nil_append]
  · apply List.filter_congr
    intro id hid
    rw [decide_eq_decide]
    exact and_iff_right (hf.notMem_nodes_of_grown hq hext hmoves hid)
  · intro id hid
    rw [decide_eq_true_iff, hf.nodes_before hq hext, List.mem_append]
    rintro ⟨hnot, -⟩
    exact hnot (Or.inr hid)

/-- What the record takes for entering and leaving is what entered and left. -/
theorem Follows.record : (t.record q pushed popped).Follows g held' := by
  have hlen := hf.headSeq_le_length hq hext
  have hmark := hf.pool.tracks.list.watermark_le
  have htail := hf.pool.tracks.list.tailSeq_eq
  have hhead := hext.headSeq_le
  obtain ⟨rest, hrest⟩ := hext.entered_prefix
  refine ⟨hq, ?_, ?_, ?_⟩
  · show t.arrived ++ (pushed ++ _) = g.entered
    rw [hf.filter_nodes_before hq hext hmoves, hf.arrived_eq, hmoves.entered_eq]
  · show t.left ++ (popped ++ _) = g.entered.take q.free.headSeq
    rw [hf.filter_nodes_after hq hext hmoves, ← hmoves.departed_eq, hf.left_eq,
      PagePool.departed]
    have hsplit := List.take_append_drop t.pool.free.headSeq (g.entered.take q.free.headSeq)
    rw [List.take_take, Nat.min_eq_left hhead, ← hrest,
      List.take_append_of_le_length (by omega), hrest] at hsplit
    exact hsplit
  · show t.ready = g.entered.take q.free.watermark
    rw [hext.watermark_eq, hf.ready_eq, ← hrest, List.take_append_of_le_length (by omega)]

end Record

/-! ## Calls -/

/-- The new list and its record have an empty history. -/
theorem start_follows (hs : PageView.Sound s)
    (hcap : 2 ≤ FreeNode.capacity (PageStore.pageSize s)) (hpos : 0 < node)
    (hlt : node < PageStore.pageCount s) :
    (start s node).Follows ⟨[], [node], 0⟩
      ((List.range' 1 (PageStore.pageCount s - 1)).erase node) where
  pool := by
    refine ⟨⟨hs, rfl, FreeList.Tracks.new hcap hpos hlt⟩, ?_⟩
    show 0 < 1 * FreeNode.capacity (PageStore.pageSize s)
    omega
  arrived_eq := rfl
  left_eq := rfl
  ready_eq := rfl

variable [LawfulPageStore σ]

/-- An allowed call succeeds, and the record still agrees with the history. -/
theorem Follows.call (hf : t.Follows h held) (c : FreeCall) (hallow : t.Allows c)
    (hseq : t.pool.free.tailSeq + 2 < 2 ^ 64)
    (hcount : PageStore.pageCount t.pool.pages + 1 < 2 ^ 64) :
    ∃ u g held', t.call c = .ok u ∧ u.Follows g held' ∧
      u.pool.free.tailSeq ≤ t.pool.free.tailSeq + 2 ∧
      PageStore.pageCount u.pool.pages ≤ PageStore.pageCount t.pool.pages + 1 := by
  have ht := hf.pool.tracks.list
  have hhead := ht.headSeq_le
  cases c with
  | push id =>
    obtain ⟨hpos, hlt, hnode, hitem⟩ := hallow
    have hready := hf.pool.of_perm (List.perm_cons_erase (hf.mem_held hpos hlt hnode hitem))
    obtain ⟨q, g, grown, hrun, hq, hext, hmoves, htail, hpages⟩ :=
      PagePool.pushTail_ok id hready.tracks hready.room hseq hcount
        (Or.inr ⟨rfl, rfl⟩)
    have hf' : t.Follows h (id :: held.erase id) :=
      ⟨hready, hf.arrived_eq, hf.left_eq, hf.ready_eq⟩
    refine ⟨_, g, _, ?_, hf'.record hq hext hmoves, htail, hpages⟩
    rw [FreeTrace.call, hrun]
  | pop =>
    by_cases heq : t.pool.free.headSeq = t.pool.free.watermark
    · have hmoves : t.pool.Moves t.pool h h [] [] [] :=
        ⟨by rw [PagePool.usedUp_eq_nil rfl rfl]; simp, PagePool.departed_eq_nil rfl, by simp⟩
      refine ⟨_, h, held, ?_, hf.record hf.pool PagePool.Extends.refl hmoves, by
        show t.pool.free.tailSeq ≤ _; omega, Nat.le_succ _⟩
      rw [FreeTrace.call, PagePool.popHead_none heq]
      rfl
    · obtain ⟨id, q, g, grown, hrun, hid, hq, hext, hmoves, htail, hpages⟩ :=
        PagePool.popHead_some hf.pool (by omega) hseq hcount
      refine ⟨_, g, _, ?_, hf.record hq hext hmoves, htail, hpages⟩
      rw [FreeTrace.call, hrun]
      rfl
  | raise =>
    refine ⟨_, { h with kept := t.pool.free.headSeq }, held, rfl, ⟨⟨⟨hf.pool.tracks.sound,
      hf.pool.tracks.capacity_eq, ht.raise hf.pool.room⟩, hf.pool.room⟩, hf.arrived_eq,
      hf.left_eq, ?_⟩, Nat.le_add_right _ 2, Nat.le_succ _⟩
    show t.arrived = h.entered.take t.pool.free.tailSeq
    rw [hf.arrived_eq, ht.tailSeq_eq, List.take_length]

/-- Whatever calls led here, the record agrees with a history. -/
theorem Reached.follows (hs : PageView.Sound s)
    (hcap : 2 ≤ FreeNode.capacity (PageStore.pageSize s)) (hpos : 0 < node)
    (hlt : node < PageStore.pageCount s) (hreach : Reached s node n t)
    (hfits : PageStore.pageCount s + 2 * n < 2 ^ 64) :
    ∃ h held, t.Follows h held ∧ t.pool.free.tailSeq ≤ 2 * n ∧
      PageStore.pageCount t.pool.pages ≤ PageStore.pageCount s + n := by
  induction hreach with
  | start => exact ⟨_, _, start_follows hs hcap hpos hlt, Nat.le_refl 0, Nat.le_refl _⟩
  | call c _ hallow hcall ih =>
    obtain ⟨h, held, hf, htail, hcount⟩ := ih (by omega)
    obtain ⟨u, g, held', hcall', hf', htail', hcount'⟩ :=
      hf.call c hallow (by omega) (by omega)
    obtain rfl := Except.ok.inj (hcall.symm.trans hcall')
    exact ⟨g, held', hf', by omega, by omega⟩

/-- **The free list is a queue with a watermark**: whatever calls led here, the next call
succeeds, what left is what entered before the watermark, in the order of entering, and the
next page to be popped is the oldest item, unless no item is below the watermark. A call adds
at most two items and one page, so no sequence number and no page number overflows its 64 bits
as long as `hfits` holds. -/
theorem fifo_of_reached (hs : PageView.Sound s)
    (hcap : 2 ≤ FreeNode.capacity (PageStore.pageSize s)) (hpos : 0 < node)
    (hlt : node < PageStore.pageCount s) (hreach : Reached s node n t)
    (hfits : PageStore.pageCount s + 2 * (n + 1) < 2 ^ 64) :
    t.Fifo ∧ (∀ c, t.Allows c → ∃ u, t.call c = .ok u) ∧
      ∃ answer q, PagePool.popHead t.pool = .ok answer q ∧
        (answer = none ↔ t.pool.free.headSeq = t.pool.free.watermark) ∧
        ∀ id, answer = some id → t.items.head? = some id ∧ id ∉ t.nodes ∧
          id ∉ q.free.nodes (page q.pages) := by
  obtain ⟨h, held, hf, htail, hcount⟩ := hreach.follows hs hcap hpos hlt (by omega)
  refine ⟨hf.fifo, ?_, ?_⟩
  · intro c hallow
    obtain ⟨u, _, _, hcall, _⟩ := hf.call c hallow (by omega) (by omega)
    exact ⟨u, hcall⟩
  · have ht := hf.pool.tracks.list
    have hhead := ht.headSeq_le
    by_cases heq : t.pool.free.headSeq = t.pool.free.watermark
    · refine ⟨none, t.pool, PagePool.popHead_none heq, iff_of_true rfl heq, ?_⟩
      intro id hid
      cases hid
    · obtain ⟨id, q, g, grown, hrun, hid, hq, -⟩ :=
        PagePool.popHead_some hf.pool (by omega) (by omega) (by omega)
      refine ⟨some id, q, hrun, iff_of_false (Option.some_ne_none id) heq, ?_⟩
      intro id' hid'
      obtain rfl := Option.some.inj hid'
      obtain ⟨id', hid', hdrop⟩ := ht.entered_headSeq (by omega)
      obtain rfl : id' = id := Option.some.inj (hid'.symm.trans hid)
      refine ⟨?_, ?_, ?_⟩
      · rw [hf.items_eq, hdrop]
        rfl
      · rw [hf.nodes_eq]
        intro hnode
        apply ht.notMem_item_of_node hnode
        rw [hdrop]
        exact List.mem_cons_self
      · rw [hq.tracks.list.nodes_eq hq.room]
        intro hnode
        exact hq.tracks.list.notMem_held_of_node hnode List.mem_cons_self

/-- A list of two slots per node that gets a second node, pops both items and has its first
node back as an item. -/
theorem fifo_of_two_slots : ∃ t : FreeTrace PageArray,
    Reached ⟨24, List.replicate 4 (Bytes.zeros 24)⟩ 1 5 t ∧ t.Fifo ∧
      t.left = [2, 3] ∧ t.items = [1] ∧ t.nodes = [4] := by
  have h₀ : Reached (⟨24, List.replicate 4 (Bytes.zeros 24)⟩ : PageArray) 1 0 _ := Reached.start
  have h₁ := h₀.call (.push 2) (by decide) rfl
  have h₂ := h₁.call (.push 3) (by decide) rfl
  have h₃ := h₂.call .raise (by decide) rfl
  have h₄ := h₃.call .pop (by decide) rfl
  have h₅ := h₄.call .pop (by decide) rfl
  have hs : PageView.Sound (⟨24, List.replicate 4 (Bytes.zeros 24)⟩ : PageArray) := by
    intro b hb
    rw [(List.mem_replicate.mp hb).2]
    rfl
  have hfifo := fifo_of_reached hs (by decide) (by decide) (by decide) h₅ (by decide)
  exact ⟨_, h₅, hfifo.1, rfl, rfl, rfl⟩

end FreeTrace

end PagedTables
