/-
# The steps of a free list

What each operation does to the history of a free list, on any lawful page store. No operation
fails, and none touches a page that is held by the user of the list or that entered above the
watermark.

* `PagePool.popHead_some`, `PagePool.pushTail_ok` : the two ends of the queue;
* `PagePool.allocateMany_ok`, `PagePool.pushAll_ok` : several pages taken or given back.
-/
import PagedTables.Proofs.FreeList.History
import PagedTables.Proofs.Pages.Lawful

namespace PagedTables

/-- Numbers of items go up by one, as long as they can be counted. -/
theorem nextSeq_of_lt {s : Nat} (h : s + 1 < 2 ^ 64) : nextSeq s = s + 1 :=
  Nat.mod_eq_of_lt h

namespace PagePool

open PageView (page)

variable {σ : Type}

/-! ## What a step does -/

section Relations

variable [PageStore σ] [PageView σ]

/-- The pages of a pool hold the history of its free list. -/
structure Tracks (p : PagePool σ) (h : FreeHistory) (loose held : List PageId) : Prop where
  sound : PageView.Sound p.pages
  capacity_eq : p.free.capacity = FreeNode.capacity (PageStore.pageSize p.pages)
  list : p.free.Tracks (page p.pages) (PageStore.pageCount p.pages) h loose held

/-- Every item has entered, and the last node has room for the next one. -/
structure Ready (p : PagePool σ) (h : FreeHistory) (held : List PageId) : Prop where
  tracks : p.Tracks h [] held
  room : p.free.tailSeq < h.nodes.length * p.free.capacity

/-- The pages that no step touches: those held, and those that may not leave yet. -/
def untouched (p : PagePool σ) (h : FreeHistory) (held : List PageId) : List PageId :=
  held ++ h.entered.drop p.free.watermark

/-- The nodes that were used up from `p` to `q`. -/
def usedUp (p q : PagePool σ) (h : FreeHistory) : List PageId :=
  (h.nodes.take (q.free.nodeIndex q.free.headSeq)).drop (p.free.nodeIndex p.free.headSeq)

/-- The items that left from `p` to `q`. -/
def departed (p q : PagePool σ) (g : FreeHistory) : List PageId :=
  (g.entered.take q.free.headSeq).drop p.free.headSeq

/-- From `p` to `q` the history only grew, and nothing happened to the untouched pages. -/
structure Extends (p q : PagePool σ) (h g : FreeHistory) (held held' : List PageId) : Prop where
  pageSize_eq : PageStore.pageSize q.pages = PageStore.pageSize p.pages
  rest_eq : PageView.rest q.pages = PageView.rest p.pages
  pageCount_le : PageStore.pageCount p.pages ≤ PageStore.pageCount q.pages
  capacity_eq : q.free.capacity = p.free.capacity
  watermark_eq : q.free.watermark = p.free.watermark
  headSeq_le : p.free.headSeq ≤ q.free.headSeq
  entered_prefix : h.entered <+: g.entered
  nodes_prefix : h.nodes <+: g.nodes
  kept_eq : g.kept = h.kept
  page_eq : ∀ id ∈ p.untouched h held, page q.pages id = page p.pages id
  subset : p.untouched h held ⊆ q.untouched g held'

/-- What entered, left and became a node from `p` to `q`. A node that is used up enters behind
what was pushed; an item that becomes a node leaves behind what was popped. -/
structure Moves (p q : PagePool σ) (h g : FreeHistory) (pushed popped grown : List PageId) :
    Prop where
  entered_eq : g.entered = h.entered ++ (pushed ++ p.usedUp q h)
  departed_eq : p.departed q g =
    popped ++ grown.filter fun id => decide (id < PageStore.pageCount p.pages)
  nodes_eq : g.nodes = h.nodes ++ grown

/-- How far the list got from `p` to `q`, in `ops` operations of which `pushes` added an item. -/
structure Advances (p q : PagePool σ) (ops pushes : Nat) : Prop where
  tailSeq_add : q.free.tailSeq + p.free.nodeIndex p.free.headSeq =
    p.free.tailSeq + pushes + q.free.nodeIndex q.free.headSeq
  tailSeq_le : q.free.tailSeq ≤ p.free.tailSeq + 2 * ops
  pageCount_le : PageStore.pageCount q.pages ≤ PageStore.pageCount p.pages + ops

end Relations

variable {p q r : PagePool σ} {h g f : FreeHistory} {loose held held' held'' : List PageId}
variable {id : Nat}

namespace Extends

variable [PageStore σ] [PageView σ]

theorem refl : p.Extends p h h held held where
  pageSize_eq := rfl
  rest_eq := rfl
  pageCount_le := Nat.le_refl _
  capacity_eq := rfl
  watermark_eq := rfl
  headSeq_le := Nat.le_refl _
  entered_prefix := List.prefix_refl _
  nodes_prefix := List.prefix_refl _
  kept_eq := rfl
  page_eq _ _ := rfl
  subset _ hmem := hmem

theorem trans (h₁ : p.Extends q h g held held') (h₂ : q.Extends r g f held' held'') :
    p.Extends r h f held held'' where
  pageSize_eq := h₂.pageSize_eq.trans h₁.pageSize_eq
  rest_eq := h₂.rest_eq.trans h₁.rest_eq
  pageCount_le := Nat.le_trans h₁.pageCount_le h₂.pageCount_le
  capacity_eq := h₂.capacity_eq.trans h₁.capacity_eq
  watermark_eq := h₂.watermark_eq.trans h₁.watermark_eq
  headSeq_le := Nat.le_trans h₁.headSeq_le h₂.headSeq_le
  entered_prefix := h₁.entered_prefix.trans h₂.entered_prefix
  nodes_prefix := h₁.nodes_prefix.trans h₂.nodes_prefix
  kept_eq := h₂.kept_eq.trans h₁.kept_eq
  page_eq id hmem := (h₂.page_eq id (h₁.subset hmem)).trans (h₁.page_eq id hmem)
  subset _ hmem := h₂.subset (h₁.subset hmem)

/-- The user of the list holds more pages in the end. -/
theorem hold (hpq : p.Extends q h g held held') (hsub : held' ⊆ held'') :
    p.Extends q h g held held'' :=
  { hpq with
    subset := by
      intro id hmem
      rcases List.mem_append.mp (hpq.subset hmem) with hheld | hitem
      · exact List.mem_append_left _ (hsub hheld)
      · exact List.mem_append_right _ hitem }

/-- The untouched pages of `p` stay untouched while the same pages are held. -/
theorem same_held (hpq : p.Extends q h g held held') : p.Extends q h g held held :=
  { hpq with
    subset := by
      intro id hmem
      rcases List.mem_append.mp hmem with hheld | hitem
      · exact List.mem_append_left _ hheld
      · apply List.mem_append_right
        rw [hpq.watermark_eq]
        exact (hpq.entered_prefix.drop p.free.watermark).subset hitem }

/-- Items leave while other pages are read or changed. -/
theorem of_becomes {t : σ} {l : FreeList} {pages : PageId → Bytes}
    (hbec : PageView.Becomes p.pages t (PageStore.pageCount p.pages) pages)
    (hpage : ∀ id ∈ p.untouched h held, pages id = page p.pages id)
    (hcap : l.capacity = p.free.capacity) (hmark : l.watermark = p.free.watermark)
    (hhead : p.free.headSeq ≤ l.headSeq) : p.Extends ⟨l, t⟩ h h held held where
  pageSize_eq := hbec.pageSize_eq
  rest_eq := hbec.rest_eq
  pageCount_le := Nat.le_of_eq hbec.pageCount_eq.symm
  capacity_eq := hcap
  watermark_eq := hmark
  headSeq_le := hhead
  entered_prefix := List.prefix_refl _
  nodes_prefix := List.prefix_refl _
  kept_eq := rfl
  page_eq i hi := (congrFun hbec.page_eq i).trans (hpage i hi)
  subset := by
    intro i hi
    rw [untouched, show FreeList.watermark _ = p.free.watermark from hmark]
    exact hi

end Extends

/-! ## Runs of a list -/

theorem run_self (xs : List PageId) (a : Nat) : (xs.take a).drop a = [] :=
  List.drop_of_length_le (by rw [List.length_take]; exact Nat.min_le_left _ _)

theorem run_succ {xs : List PageId} {a : Nat} (hid : xs[a]? = some id) :
    (xs.take (a + 1)).drop a = [id] := by
  have hlen := (List.getElem?_eq_some_iff.mp hid).1
  rw [List.take_add_one, hid, List.drop_append_of_le_length (by rw [List.length_take]; omega),
    run_self]
  rfl

/-- Adjacent runs of a list. -/
theorem run_append (xs : List PageId) {a b c : Nat} (hab : a ≤ b) (hbc : b ≤ c) :
    (xs.take b).drop a ++ (xs.take c).drop b = (xs.take c).drop a := by
  have hsplit := List.take_append_drop b (xs.take c)
  rw [List.take_take, Nat.min_eq_left hbc] at hsplit
  by_cases hlen : a ≤ (xs.take b).length
  · rw [← List.drop_append_of_le_length hlen, hsplit]
  · rw [List.length_take] at hlen
    rw [List.drop_of_length_le (by rw [List.length_take]; omega),
      List.drop_of_length_le (by rw [List.length_take]; omega),
      List.drop_of_length_le (by rw [List.length_take]; omega)]
    rfl

/-- No node is used up while the head stays. -/
theorem usedUp_eq_nil (hcap : q.free.capacity = p.free.capacity)
    (hseq : q.free.headSeq = p.free.headSeq) : p.usedUp q h = [] := by
  rw [usedUp, FreeList.nodeIndex, FreeList.nodeIndex, hcap, hseq, run_self]

theorem departed_eq_nil (hseq : q.free.headSeq = p.free.headSeq) : p.departed q g = [] := by
  rw [departed, hseq, run_self]

/-- One item has left when the head moves on by one. -/
theorem departed_eq_singleton (hseq : q.free.headSeq = p.free.headSeq + 1)
    (hid : g.entered[p.free.headSeq]? = some id) : p.departed q g = [id] := by
  rw [departed, hseq]
  exact run_succ hid

/-! ## Actions on the parts of a pool -/

section Parts

variable {α β : Type} {act : Action StoreError σ α} {a : α} {t : σ}
variable {rest : α → Action StoreError (PagePool σ) β}

theorem onPages_ok (hact : act p.pages = .ok a t) : onPages act p = .ok a ⟨p.free, t⟩ :=
  Action.within_ok hact

theorem onPages_bind_ok (hact : act p.pages = .ok a t) :
    (onPages act >>= rest) p = rest a ⟨p.free, t⟩ :=
  Action.bind_ok (onPages_ok hact)

theorem updateFree_bind (change : FreeList → FreeList)
    (rest : PUnit → Action StoreError (PagePool σ) β) :
    (updateFree change >>= rest) p = rest ⟨⟩ ⟨change p.free, p.pages⟩ := rfl

end Parts

namespace Tracks

variable [PageStore σ] [PageView σ] (ht : p.Tracks h loose held)
include ht

/-- The tail is a page of the file. -/
theorem tailPage_lt : p.free.tailPage < PageStore.pageCount p.pages :=
  (ht.list.node_range ht.list.tailPage_mem).2

theorem headPage_lt : p.free.headPage < PageStore.pageCount p.pages :=
  (ht.list.node_range ht.list.headPage_mem).2

/-- The tail node is none of the untouched pages. -/
theorem ne_tailPage (hmem : id ∈ p.untouched h held) : id ≠ p.free.tailPage := by
  intro heq
  have htail := ht.list.tailPage_mem
  rw [← heq] at htail
  rcases List.mem_append.mp hmem with hheld | hitem
  · exact ht.list.notMem_held_of_node htail hheld
  · exact ht.list.notMem_item_of_node htail (ht.list.mem_drop_headSeq hitem)

variable [LawfulPageStore σ]

/-- All pages have room for as many items as the list counts on. -/
theorem capacity_page {i : Nat} (hi : i < PageStore.pageCount p.pages) :
    FreeNode.capacity (page p.pages i).length = p.free.capacity := by
  rw [LawfulPageStore.length_page ht.sound hi, ht.capacity_eq]

/-- Every page has the slot of every sequence number. -/
theorem index_lt {i : Nat} (hi : i < PageStore.pageCount p.pages) (s : Nat) :
    p.free.index s < FreeNode.capacity (page p.pages i).length := by
  rw [ht.capacity_page hi]
  exact FreeList.index_lt ht.list.two_le_capacity

end Tracks

namespace Extends

variable [PageStore σ] [PageView σ]

/-- The node at the head never goes back. -/
theorem nodeIndex_le (hext : p.Extends q h g held held') :
    p.free.nodeIndex p.free.headSeq ≤ q.free.nodeIndex q.free.headSeq := by
  rw [FreeList.nodeIndex, FreeList.nodeIndex, hext.capacity_eq]
  exact Nat.div_le_div_right hext.headSeq_le

/-- The head does not get past the nodes that the list had before, as the watermark stays. -/
theorem nodeIndex_lt (hext : p.Extends q h g held held') (hp : p.Ready h held)
    (hq : q.Ready g held') : q.free.nodeIndex q.free.headSeq < h.nodes.length := by
  have hcap := hext.capacity_eq
  have htwo := hp.tracks.list.two_le_capacity
  have hhead := hq.tracks.list.headSeq_le
  have hmark := hp.tracks.list.watermark_lt
  rw [hext.watermark_eq] at hhead
  rw [FreeList.nodeIndex_lt_iff (by rw [hcap]; exact htwo), hcap]
  omega

end Extends

namespace Advances

variable [PageStore σ]

variable {m n k l : Nat}

theorem refl : p.Advances p 0 0 :=
  ⟨rfl, Nat.le_refl _, Nat.le_refl _⟩

theorem trans (h₁ : p.Advances q m n) (h₂ : q.Advances r k l) :
    p.Advances r (m + k) (n + l) := by
  have ha := h₁.tailSeq_add
  have hb := h₂.tailSeq_add
  have hc := h₁.tailSeq_le
  have hd := h₂.tailSeq_le
  have he := h₁.pageCount_le
  have hf := h₂.pageCount_le
  exact ⟨by omega, by omega, by omega⟩

variable [PageView σ]

/-- Every node that is used up enters, and nothing else does but what is pushed. -/
theorem of_moves {pushed popped grown : List PageId} (hp : p.Ready h held)
    (hq : q.Ready g held') (hext : p.Extends q h g held held')
    (hmoves : p.Moves q h g pushed popped grown) (htail : q.free.tailSeq ≤ p.free.tailSeq + 2)
    (hcount : PageStore.pageCount q.pages ≤ PageStore.pageCount p.pages + 1) :
    p.Advances q 1 pushed.length := by
  have hlt := hext.nodeIndex_lt hp hq
  have hle := hext.nodeIndex_le
  have hlen := congrArg List.length hmoves.entered_eq
  rw [List.length_append, List.length_append, usedUp, List.length_drop, List.length_take,
    ← hp.tracks.list.tailSeq_eq, ← hq.tracks.list.tailSeq_eq] at hlen
  exact ⟨by omega, by omega, hcount⟩

end Advances

/-- What happens to held pages is no business of the list. -/
theorem Ready.of_becomes [PageStore σ] [PageView σ] {t : σ} {pages : PageId → Bytes}
    (hp : p.Ready h held)
    (hbec : PageView.Becomes p.pages t (PageStore.pageCount p.pages) pages)
    (hpage : ∀ id, id ∉ held → pages id = page p.pages id) : Ready ⟨p.free, t⟩ h held := by
  refine ⟨⟨hbec.sound, ?_, ?_⟩, hp.room⟩
  · rw [hp.tracks.capacity_eq, hbec.pageSize_eq]
  · show p.free.Tracks (page t) (PageStore.pageCount t) h [] held
    rw [hbec.page_eq, hbec.pageCount_eq]
    exact hp.tracks.list.of_pages fun i _ _ hi => hpage i hi

/-- The order of the pages in use does not matter. -/
theorem Ready.of_perm [PageStore σ] [PageView σ] (hp : p.Ready h held)
    (hperm : held.Perm held') : p.Ready h held' :=
  ⟨⟨hp.tracks.sound, hp.tracks.capacity_eq, hp.tracks.list.of_perm hperm⟩, hp.room⟩

variable [PageStore σ] [PageView σ] [LawfulPageStore σ]

/-! ## The parts of the operations -/

/-- Writing the next slot of the last node. -/
theorem put_ok (id : Nat) {loose' : List PageId} (ht : p.Tracks h loose held)
    (hroom : p.free.tailSeq < h.nodes.length * p.free.capacity)
    (hcount : PageStore.pageCount p.pages < 2 ^ 64)
    (hin : FreeList.HandedIn id loose held loose' held') :
    ∃ t, PageStore.modify p.free.tailPage
          (FreeNode.setSlot (p.free.index p.free.tailSeq) id) p.pages = .ok () t ∧
      PageStore.pageCount t = PageStore.pageCount p.pages ∧
      Tracks ⟨{ p.free with tailSeq := p.free.tailSeq + 1 }, t⟩
        { h with entered := h.entered ++ [id] } loose' held' ∧
      p.Extends ⟨{ p.free with tailSeq := p.free.tailSeq + 1 }, t⟩
        h { h with entered := h.entered ++ [id] } held held' := by
  have htail := ht.tailPage_lt
  obtain ⟨t, hrun, hbec⟩ := LawfulPageStore.modify_ok
    (FreeNode.setSlot (p.free.index p.free.tailSeq) id) ht.sound htail
    (by rw [FreeNode.length_setSlot (ht.index_lt htail _),
      LawfulPageStore.length_page ht.sound htail])
  refine ⟨t, hrun, hbec.pageCount_eq, ⟨hbec.sound, ?_, ?_⟩, ?_⟩
  · show p.free.capacity = FreeNode.capacity (PageStore.pageSize t)
    rw [hbec.pageSize_eq, ht.capacity_eq]
  · show FreeList.Tracks { p.free with tailSeq := p.free.tailSeq + 1 } (page t)
      (PageStore.pageCount t) _ loose' held'
    rw [hbec.page_eq, hbec.pageCount_eq]
    exact ht.list.put hroom (fun i hi => ht.capacity_page hi) hcount hin
  · exact {
      pageSize_eq := hbec.pageSize_eq
      rest_eq := hbec.rest_eq
      pageCount_le := Nat.le_of_eq hbec.pageCount_eq.symm
      capacity_eq := rfl
      watermark_eq := rfl
      headSeq_le := Nat.le_refl _
      entered_prefix := List.prefix_append _ _
      nodes_prefix := List.prefix_refl _
      kept_eq := rfl
      page_eq := by
        intro i hi
        rw [hbec.page_eq, Function.update_of_ne (ht.ne_tailPage hi)]
      subset := by
        intro i hi
        have hmark := ht.list.watermark_le
        rw [ht.list.tailSeq_eq] at hmark
        show i ∈ held' ++ (h.entered ++ [id]).drop p.free.watermark
        rw [List.drop_append_of_le_length hmark]
        rcases List.mem_append.mp hi with hheld | hitem
        · rcases hin.mem_held hheld with rfl | hheld'
          · simp
          · simp [hheld']
        · simp [hitem] }

/-- Linking a held page behind the last node. -/
theorem attach_ok {next : Nat} (ht : p.Tracks h loose (next :: held))
    (hfull : p.free.tailSeq = h.nodes.length * p.free.capacity)
    (hcount : PageStore.pageCount p.pages < 2 ^ 64) :
    ∃ t u, PageStore.modify p.free.tailPage (FreeNode.setLink next) p.pages = .ok () t ∧
      PageStore.modify next (FreeNode.setLink PageId.null) t = .ok () u ∧
      PageStore.pageCount u = PageStore.pageCount p.pages ∧
      Tracks ⟨{ p.free with tailPage := next }, u⟩
        { h with nodes := h.nodes ++ [next] } loose held ∧
      p.Extends ⟨{ p.free with tailPage := next }, u⟩
        h { h with nodes := h.nodes ++ [next] } held held := by
  have htail := ht.tailPage_lt
  have hnext := (ht.list.held_range List.mem_cons_self).2
  have hne : next ≠ p.free.tailPage :=
    ht.ne_tailPage (List.mem_append_left _ List.mem_cons_self)
  obtain ⟨t, hrun, hbec⟩ := LawfulPageStore.modify_ok
    (FreeNode.setLink next) ht.sound htail
    (by rw [FreeNode.length_setLink (ht.index_lt htail 0),
      LawfulPageStore.length_page ht.sound htail])
  have hsame : page t next = page p.pages next := by
    rw [hbec.page_eq, Function.update_of_ne hne]
  have hnext' : next < PageStore.pageCount t := by
    rw [hbec.pageCount_eq]
    exact hnext
  obtain ⟨u, hrun', hbec'⟩ := LawfulPageStore.modify_ok
    (FreeNode.setLink PageId.null) hbec.sound hnext'
    (by rw [hsame, FreeNode.length_setLink (ht.index_lt hnext 0),
      LawfulPageStore.length_page ht.sound hnext, hbec.pageSize_eq])
  have hcount' : PageStore.pageCount u = PageStore.pageCount p.pages :=
    hbec'.pageCount_eq.trans hbec.pageCount_eq
  refine ⟨t, u, hrun, hrun', hcount', ⟨hbec'.sound, ?_, ?_⟩, ?_⟩
  · show p.free.capacity = FreeNode.capacity (PageStore.pageSize u)
    rw [hbec'.pageSize_eq, hbec.pageSize_eq, ht.capacity_eq]
  · show FreeList.Tracks { p.free with tailPage := next } (page u) (PageStore.pageCount u) _
      loose held
    rw [hcount', hbec'.page_eq, hsame, hbec.page_eq]
    exact ht.list.attach hfull (fun i hi => ht.capacity_page hi) hcount (List.Perm.refl _)
  · exact {
      pageSize_eq := hbec'.pageSize_eq.trans hbec.pageSize_eq
      rest_eq := hbec'.rest_eq.trans hbec.rest_eq
      pageCount_le := Nat.le_of_eq hcount'.symm
      capacity_eq := rfl
      watermark_eq := rfl
      headSeq_le := Nat.le_refl _
      entered_prefix := List.prefix_refl _
      nodes_prefix := List.prefix_append _ _
      kept_eq := rfl
      page_eq := by
        intro i hi
        have htail' : i ≠ p.free.tailPage := by
          apply ht.ne_tailPage
          rcases List.mem_append.mp hi with hheld | hitem
          · exact List.mem_append_left _ (List.mem_cons_of_mem _ hheld)
          · exact List.mem_append_right _ hitem
        have hnext'' : i ≠ next := by
          rintro rfl
          rcases List.mem_append.mp hi with hheld | hitem
          · exact (List.nodup_cons.mp ht.list.nodup_held).1 hheld
          · exact ht.list.notMem_held_of_item (ht.list.mem_drop_headSeq hitem)
              List.mem_cons_self
        rw [hbec'.page_eq, Function.update_of_ne hnext'', hbec.page_eq,
          Function.update_of_ne htail']
      subset := fun _ hi => hi }

/-- A new page at the end. -/
theorem appendZeros_ok (ht : p.Tracks h loose held) :
    ∃ t, appendZeros p = .ok (PageStore.pageCount p.pages) ⟨p.free, t⟩ ∧
      PageStore.pageCount t = PageStore.pageCount p.pages + 1 ∧
      Tracks ⟨p.free, t⟩ h loose (PageStore.pageCount p.pages :: held) ∧
      p.Extends ⟨p.free, t⟩ h h held held := by
  obtain ⟨t, hrun, hbec⟩ := LawfulPageStore.append_ok ht.sound
    (Bytes.length_zeros (PageStore.pageSize p.pages))
  refine ⟨t, ?_, hbec.pageCount_eq, ⟨hbec.sound, ?_, ?_⟩, ?_⟩
  · rw [appendZeros, Action.get_bind, onPages_ok hrun]
  · show p.free.capacity = FreeNode.capacity (PageStore.pageSize t)
    rw [hbec.pageSize_eq, ht.capacity_eq]
  · show p.free.Tracks (page t) (PageStore.pageCount t) h loose _
    rw [hbec.page_eq, hbec.pageCount_eq]
    exact ht.list.grow
  · exact {
      pageSize_eq := hbec.pageSize_eq
      rest_eq := hbec.rest_eq
      pageCount_le := by
        show PageStore.pageCount p.pages ≤ PageStore.pageCount t
        rw [hbec.pageCount_eq]
        exact Nat.le_succ _
      capacity_eq := rfl
      watermark_eq := rfl
      headSeq_le := Nat.le_refl _
      entered_prefix := List.prefix_refl _
      nodes_prefix := List.prefix_refl _
      kept_eq := rfl
      page_eq := by
        intro i hi
        have hlt : i < PageStore.pageCount p.pages := by
          rcases List.mem_append.mp hi with hheld | hitem
          · exact (ht.list.held_range hheld).2
          · exact (ht.list.item_range (ht.list.mem_drop_headSeq hitem)).2
        rw [hbec.page_eq, Function.update_of_ne (Nat.ne_of_lt hlt)]
      subset := fun _ hi => hi }

omit [PageView σ] [LawfulPageStore σ] in
/-- Nothing leaves at the watermark. -/
theorem pop_none (hle : p.free.headSeq = p.free.watermark) : pop p = .ok (none, none) p := by
  rw [pop, Action.get_bind, if_pos hle]
  rfl

/-- Below the watermark the head node is read, and its slot is no null link. -/
theorem pop_eq (ht : p.Tracks h [] held) (hlt : p.free.headSeq < p.free.watermark)
    (hseq : p.free.tailSeq < 2 ^ 64) (hid : h.entered[p.free.headSeq]? = some id) :
    ∃ t, PageView.Becomes p.pages t (PageStore.pageCount p.pages) (page p.pages) ∧ pop p =
      (if p.free.index (p.free.headSeq + 1) ≠ 0 then do
        updateFree fun l => { l with headSeq := nextSeq l.headSeq }
        return (some id, none)
      else if FreeNode.link (page p.pages p.free.headPage) = PageId.null then
        throw (.damaged (.noSuccessor p.free.headPage))
      else do
        updateFree fun l => { l with
          headSeq := nextSeq l.headSeq
          headPage := FreeNode.link (page p.pages p.free.headPage) }
        return (some id, some p.free.headPage) : Action StoreError (PagePool σ) _)
        ⟨p.free, t⟩ := by
  have hmark := ht.list.watermark_le
  obtain ⟨t, hrun, hbec, -⟩ := LawfulPageStore.read_ok ht.sound ht.headPage_lt
  have hslot := ht.list.slot_eq _ _ _ ht.list.kept_le hid ht.list.headPage_eq
  have hnext : nextSeq p.free.headSeq = p.free.headSeq + 1 := nextSeq_of_lt (by omega)
  have hitem : id ∈ h.entered.drop p.free.headSeq := by
    rw [List.mem_iff_getElem?]
    exact ⟨0, by rw [List.getElem?_drop, Nat.add_zero, hid]⟩
  have hnull : id ≠ PageId.null := Nat.ne_of_gt (ht.list.item_range hitem).1
  refine ⟨t, hbec, ?_⟩
  rw [pop, Action.get_bind, if_neg (Nat.ne_of_lt hlt), onPages_bind_ok hrun, hnext, hslot,
    if_neg hnull]

/-- The oldest item leaves; a head node that is used up by this becomes loose. -/
theorem pop_some (ht : p.Tracks h [] held) (hlt : p.free.headSeq < p.free.watermark)
    (hseq : p.free.tailSeq < 2 ^ 64) :
    ∃ id node q, pop p = .ok (some id, node) q ∧
      h.entered[p.free.headSeq]? = some id ∧
      q.Tracks h node.toList (id :: held) ∧ p.Extends q h h held held ∧
      q.free.headSeq = p.free.headSeq + 1 ∧ q.free.tailSeq = p.free.tailSeq ∧
      PageStore.pageCount q.pages = PageStore.pageCount p.pages ∧
      p.usedUp q h = node.toList := by
  have hmark := ht.list.watermark_le
  have hnext : nextSeq p.free.headSeq = p.free.headSeq + 1 := nextSeq_of_lt (by omega)
  obtain ⟨id, hid, -⟩ := ht.list.entered_headSeq hlt
  obtain ⟨t, hbec, hpop⟩ := pop_eq ht hlt hseq hid
  have hcap : p.free.capacity = FreeNode.capacity (PageStore.pageSize t) := by
    rw [hbec.pageSize_eq, ht.capacity_eq]
  by_cases hindex : p.free.index (p.free.headSeq + 1) = 0
  · have hsucc := ht.list.pop_last hlt hid hindex
    have hlink : FreeNode.link (page p.pages p.free.headPage) ≠ PageId.null :=
      Nat.ne_of_gt (hsucc.node_range hsucc.headPage_mem).1
    rw [if_neg (fun hne => hne hindex), if_neg hlink, updateFree_bind, hnext] at hpop
    refine ⟨id, some p.free.headPage, _, hpop, hid, ⟨hbec.sound, hcap, ?_⟩,
      Extends.of_becomes hbec (fun _ _ => rfl) rfl rfl (Nat.le_succ _), rfl, rfl,
      hbec.pageCount_eq, ?_⟩
    · show FreeList.Tracks _ (page t) (PageStore.pageCount t) h _ _
      rw [hbec.page_eq, hbec.pageCount_eq]
      exact hsucc
    · show (h.nodes.take (p.free.nodeIndex (p.free.headSeq + 1))).drop
        (p.free.nodeIndex p.free.headSeq) = [p.free.headPage]
      rw [FreeList.nodeIndex_succ_of_eq hindex]
      exact run_succ ht.list.headPage_eq
  · rw [if_pos hindex, updateFree_bind, hnext] at hpop
    refine ⟨id, none, _, hpop, hid, ⟨hbec.sound, hcap, ?_⟩,
      Extends.of_becomes hbec (fun _ _ => rfl) rfl rfl (Nat.le_succ _), rfl, rfl,
      hbec.pageCount_eq, ?_⟩
    · show FreeList.Tracks _ (page t) (PageStore.pageCount t) h _ _
      rw [hbec.page_eq, hbec.pageCount_eq]
      exact ht.list.pop hlt hid hindex
    · show (h.nodes.take (p.free.nodeIndex (p.free.headSeq + 1))).drop
        (p.free.nodeIndex p.free.headSeq) = []
      rw [FreeList.nodeIndex_succ_of_ne hindex]
      exact run_self _ _

/-! ## A new node -/

omit [PageView σ] [LawfulPageStore σ] in
/-- The second half of adding a node, when the page for it is known. -/
def linkNode (next : PageId) (node : Option PageId) : Action StoreError (PagePool σ) Unit := do
  let l := (← get).free
  onPages (PageStore.modify l.tailPage (FreeNode.setLink next))
  onPages (PageStore.modify next (FreeNode.setLink PageId.null))
  updateFree fun l => { l with tailPage := next }
  match node with
  | none => return ()
  | some node =>
    onPages (PageStore.modify next (FreeNode.setSlot 0 node))
    updateFree fun l => { l with tailSeq := nextSeq l.tailSeq }

omit [PageView σ] [LawfulPageStore σ] in
theorem addNode_eq : (addNode : Action StoreError (PagePool σ) Unit) = (do
    let (item, node) ← pop
    let next ← match item with
      | some id => pure id
      | none => appendZeros
    linkNode next node) := rfl

/-- The page becomes the last node; a loose node becomes its first item. -/
theorem linkNode_ok {next : Nat} (node : Option PageId)
    (ht : p.Tracks h node.toList (next :: held))
    (hfull : p.free.tailSeq = h.nodes.length * p.free.capacity)
    (hseq : p.free.tailSeq + 1 < 2 ^ 64) (hcount : PageStore.pageCount p.pages < 2 ^ 64) :
    ∃ q, linkNode next node p = .ok () q ∧
      q.Ready { h with entered := h.entered ++ node.toList, nodes := h.nodes ++ [next] } held ∧
      p.Extends q h
        { h with entered := h.entered ++ node.toList, nodes := h.nodes ++ [next] } held held ∧
      q.free.headSeq = p.free.headSeq ∧ q.free.tailSeq ≤ p.free.tailSeq + 1 ∧
      PageStore.pageCount q.pages = PageStore.pageCount p.pages := by
  have hcap := ht.list.two_le_capacity
  have hmul : (h.nodes ++ [next]).length * p.free.capacity =
      p.free.tailSeq + p.free.capacity := by
    rw [List.length_append, List.length_singleton, Nat.succ_mul, hfull]
  obtain ⟨t, u, hrun, hrun', hpages, ht', hext⟩ := attach_ok ht hfull hcount
  unfold linkNode
  rw [Action.get_bind, onPages_bind_ok hrun, onPages_bind_ok hrun', updateFree_bind]
  cases node with
  | none =>
    rw [Option.toList_none, List.append_nil]
    refine ⟨_, rfl, ⟨ht', ?_⟩, hext, rfl, Nat.le_succ _, hpages⟩
    show p.free.tailSeq < (h.nodes ++ [next]).length * p.free.capacity
    omega
  | some node =>
    have hroom : p.free.tailSeq < (h.nodes ++ [next]).length * p.free.capacity := by omega
    obtain ⟨v, hrun'', hpages', ht'', hext'⟩ := put_ok node ht' hroom
      (by rw [hpages]; exact hcount) (Or.inl ⟨rfl, rfl⟩)
    have hindex : p.free.index p.free.tailSeq = 0 := by
      rw [FreeList.index, hfull, Nat.mul_mod_left]
    have hslot : PageStore.modify next (FreeNode.setSlot 0 node) u = .ok () v := by
      rw [← hindex]
      exact hrun''
    show ∃ q, (onPages (PageStore.modify next (FreeNode.setSlot 0 node)) >>= fun _ =>
      updateFree fun l => { l with tailSeq := nextSeq l.tailSeq }) _ = .ok () q ∧ _
    rw [onPages_bind_ok hslot]
    refine ⟨_, ?_, ⟨ht'', ?_⟩, hext.trans hext', rfl, Nat.le_refl _, hpages'.trans hpages⟩
    · rw [updateFree, Action.modify_run, nextSeq_of_lt hseq]
    · show p.free.tailSeq + 1 < (h.nodes ++ [next]).length * p.free.capacity
      omega

/-- A full list gets a new last node: the oldest item if one may leave, else a new page. -/
theorem addNode_ok (ht : p.Tracks h [] held)
    (hfull : p.free.tailSeq = h.nodes.length * p.free.capacity)
    (hseq : p.free.tailSeq + 1 < 2 ^ 64) (hcount : PageStore.pageCount p.pages + 1 < 2 ^ 64) :
    ∃ q g grown, addNode p = .ok () q ∧ q.Ready g held ∧ p.Extends q h g held held ∧
      p.Moves q h g [] [] grown ∧ q.free.tailSeq ≤ p.free.tailSeq + 1 ∧
      PageStore.pageCount q.pages ≤ PageStore.pageCount p.pages + 1 := by
  rw [addNode_eq]
  by_cases hhead : p.free.headSeq = p.free.watermark
  · -- nothing may leave: the node is a new page
    obtain ⟨t, hrun, hpages, ht', hext⟩ := appendZeros_ok ht
    obtain ⟨q, hrun', hready, hext', hseq', htail, hpages'⟩ :=
      linkNode_ok none ht' hfull hseq (by rw [hpages]; exact hcount)
    refine ⟨q, _, [PageStore.pageCount p.pages], ?_, hready, hext.trans hext', ⟨?_, ?_, rfl⟩,
      htail, by rw [hpages', hpages]⟩
    · rw [Action.bind_ok (pop_none hhead)]
      show (appendZeros >>= fun next => linkNode next none) p = _
      rw [Action.bind_ok hrun, hrun']
    · rw [usedUp_eq_nil (p := p) hext'.capacity_eq hseq']
      rfl
    · rw [departed_eq_nil (p := p) hseq']
      simp
  · -- the oldest item becomes the node, and may itself have used up the head node
    have hle := ht.list.headSeq_le
    obtain ⟨id, node, r, hrun, hid, ht', hext, hseq', htail, hpages, hused⟩ :=
      pop_some ht (by omega) (by omega)
    have hcap := hext.capacity_eq
    obtain ⟨q, hrun', hready, hext', hseq'', htail', hpages'⟩ :=
      linkNode_ok node ht' (by rw [htail, hcap]; exact hfull) (by rw [htail]; exact hseq)
        (by rw [hpages]; omega)
    have hrange := ht'.list.held_range List.mem_cons_self
    refine ⟨q, _, [id], ?_, hready, hext.trans hext', ⟨?_, ?_, rfl⟩, by omega, by omega⟩
    · rw [Action.bind_ok hrun]
      exact hrun'
    · rw [List.nil_append, ← hused]
      simp only [usedUp, FreeList.nodeIndex, hext'.capacity_eq, hseq'']
    · have hlt := (List.getElem?_eq_some_iff.mp hid).1
      have hentered : (h.entered ++ node.toList)[p.free.headSeq]? = some id := by
        rw [List.getElem?_append_left hlt, hid]
      rw [departed_eq_singleton (hseq''.trans hseq') hentered, List.filter_cons,
        if_pos (by rw [decide_eq_true_iff, ← hpages]; exact hrange.2)]
      rfl

/-! ## The two ends of the queue -/

/-- An item enters at the tail. -/
theorem pushTail_ok (item : Nat) (ht : p.Tracks h loose held)
    (hroom : p.free.tailSeq < h.nodes.length * p.free.capacity)
    (hseq : p.free.tailSeq + 2 < 2 ^ 64) (hcount : PageStore.pageCount p.pages + 1 < 2 ^ 64)
    (hin : FreeList.HandedIn item loose held [] held') :
    ∃ q g grown, pushTail item p = .ok () q ∧ q.Ready g held' ∧ p.Extends q h g held held' ∧
      p.Moves q h g [item] [] grown ∧ q.free.tailSeq ≤ p.free.tailSeq + 2 ∧
      PageStore.pageCount q.pages ≤ PageStore.pageCount p.pages + 1 := by
  have hnext : nextSeq p.free.tailSeq = p.free.tailSeq + 1 := nextSeq_of_lt (by omega)
  obtain ⟨t, hrun, hpages, ht', hext⟩ := put_ok item ht hroom (by omega) hin
  rw [pushTail, Action.get_bind, onPages_bind_ok hrun, updateFree_bind, hnext]
  by_cases hindex : p.free.index (p.free.tailSeq + 1) = 0
  · -- the node is full: the next sequence number is the first one of the next node
    have hfull := ht.list.full_of_index_eq_zero hroom hindex
    obtain ⟨q, g, grown, hrun', hready, hext', hmoves, htail, hpages'⟩ :=
      addNode_ok ht' hfull (by show p.free.tailSeq + 1 + 1 < 2 ^ 64; omega)
        (by show PageStore.pageCount t + 1 < 2 ^ 64; rw [hpages]; exact hcount)
    refine ⟨q, g, grown, ?_, hready, hext.trans hext', ⟨?_, ?_, hmoves.nodes_eq⟩, htail, ?_⟩
    · rw [if_pos hindex, hrun']
    · rw [hmoves.entered_eq, List.append_assoc, List.nil_append]
      rfl
    · have hdep := hmoves.departed_eq
      rw [show PageStore.pageCount _ = PageStore.pageCount p.pages from hpages] at hdep
      exact hdep
    · have hle : PageStore.pageCount q.pages ≤ PageStore.pageCount t + 1 := hpages'
      rwa [hpages] at hle
  · refine ⟨_, _, [], ?_, ⟨ht', ?_⟩, hext, ⟨?_, ?_, ?_⟩, Nat.le_succ _, ?_⟩
    · rw [if_neg hindex]
      rfl
    · show p.free.tailSeq + 1 < h.nodes.length * p.free.capacity
      rcases Nat.lt_or_eq_of_le hroom with hlt | heq
      · exact hlt
      · exact absurd (by rw [FreeList.index, ← Nat.succ_eq_add_one, heq, Nat.mul_mod_left]) hindex
    · rw [usedUp_eq_nil (p := p) hext.capacity_eq rfl, List.append_nil]
    · rw [departed_eq_nil (p := p) (q := ⟨{ p.free with tailSeq := p.free.tailSeq + 1 }, t⟩) rfl]
      rfl
    · rw [List.append_nil]
    · show PageStore.pageCount t ≤ _
      rw [hpages]
      exact Nat.le_succ _

omit [PageView σ] [LawfulPageStore σ] in
/-- At the watermark nothing leaves at the head. -/
theorem popHead_none (hhead : p.free.headSeq = p.free.watermark) :
    popHead p = .ok none p := by
  rw [popHead, Action.bind_ok (pop_none hhead)]
  rfl

/-- Below the watermark the oldest item leaves at the head. -/
theorem popHead_some (hp : p.Ready h held) (hlt : p.free.headSeq < p.free.watermark)
    (hseq : p.free.tailSeq + 2 < 2 ^ 64) (hcount : PageStore.pageCount p.pages + 1 < 2 ^ 64) :
    ∃ id q g grown, popHead p = .ok (some id) q ∧ h.entered[p.free.headSeq]? = some id ∧
      q.Ready g (id :: held) ∧ p.Extends q h g held (id :: held) ∧
      p.Moves q h g [] [id] grown ∧ q.free.tailSeq ≤ p.free.tailSeq + 2 ∧
      PageStore.pageCount q.pages ≤ PageStore.pageCount p.pages + 1 := by
  obtain ⟨id, node, r, hrun, hid, ht, hext, hseq', htail, hpages, hused⟩ :=
    pop_some hp.tracks hlt (by omega)
  have hcap := hext.capacity_eq
  have hhold : p.Extends r h h held (id :: held) := hext.hold (List.subset_cons_self _ _)
  rw [popHead, Action.bind_ok hrun]
  cases node with
  | none =>
    refine ⟨id, r, h, [], rfl, hid, ⟨ht, ?_⟩, hhold, ⟨?_, ?_, ?_⟩, by omega, by omega⟩
    · rw [htail, hcap]
      exact hp.room
    · rw [hused]
      simp
    · rw [departed_eq_singleton hseq' hid]
      rfl
    · rw [List.append_nil]
  | some node =>
    -- the used-up head node enters at the tail, where it may use up another one
    obtain ⟨q, g, grown, hrun', hready, hext', hmoves, htail', hpages'⟩ :=
      pushTail_ok node ht (by rw [htail, hcap]; exact hp.room)
        (by omega) (by omega) (Or.inl ⟨rfl, rfl⟩)
    refine ⟨id, q, g, grown, ?_, hid, hready, hhold.trans hext', ⟨?_, ?_, hmoves.nodes_eq⟩,
      by omega, by omega⟩
    · show (pushTail node >>= fun _ => pure (some id)) r = _
      rw [Action.bind_ok hrun']
      rfl
    · have hrun_node : p.usedUp q h = [node] ++ r.usedUp q h := by
        rw [← show p.usedUp r h = [node] from hused]
        simp only [usedUp, FreeList.nodeIndex, hext'.capacity_eq, hcap]
        exact (run_append _ (Nat.div_le_div_right hext.headSeq_le)
          (Nat.div_le_div_right hext'.headSeq_le)).symm
      rw [hmoves.entered_eq, hrun_node, List.nil_append]
    · have hfirst := departed_eq_singleton hseq'
        (FreeList.getElem?_of_isPrefix hext'.entered_prefix hid)
      have hrest := hmoves.departed_eq
      rw [hpages, List.nil_append] at hrest
      rw [← hfirst, ← hrest]
      exact (run_append _ hext.headSeq_le hext'.headSeq_le).symm

/-! ## Several pages -/

/-- Several items enter at the tail. -/
theorem pushAll_ok (items : List PageId) (hp : p.Ready h (items ++ held))
    (hseq : p.free.tailSeq + 2 * items.length < 2 ^ 64)
    (hcount : PageStore.pageCount p.pages + items.length < 2 ^ 64) :
    ∃ q g, pushAll items p = .ok () q ∧ q.Ready g held ∧
      p.Extends q h g (items ++ held) held ∧ p.Advances q items.length items.length := by
  induction items generalizing p h with
  | nil => exact ⟨p, h, rfl, hp, Extends.refl, Advances.refl⟩
  | cons item rest ih =>
    rw [List.length_cons] at hseq hcount
    obtain ⟨q, g, grown, hrun, hready, hext, hmoves, htail, hpages⟩ :=
      pushTail_ok item hp.tracks hp.room (by omega) (by omega) (Or.inr ⟨rfl, rfl⟩)
    obtain ⟨r, f, hrun', hready', hext', hadv⟩ := ih hready (by omega) (by omega)
    have hone := Advances.of_moves hp hready hext hmoves htail hpages
    refine ⟨r, f, ?_, hready', hext.trans hext', ?_⟩
    · rw [pushAll, Action.bind_ok hrun, hrun']
    · rw [List.length_cons, Nat.add_comm]
      exact hone.trans hadv

/-- A page to write to: the oldest item if one may leave, else a new page. -/
theorem allocate_ok (hp : p.Ready h held) (hseq : p.free.tailSeq + 2 < 2 ^ 64)
    (hcount : PageStore.pageCount p.pages + 1 < 2 ^ 64) :
    ∃ id q g, allocate p = .ok id q ∧ q.Ready g (id :: held) ∧
      p.Extends q h g held (id :: held) ∧ p.Advances q 1 0 := by
  have hle := hp.tracks.list.headSeq_le
  by_cases hhead : p.free.headSeq = p.free.watermark
  · obtain ⟨t, hrun, hpages, ht, hext⟩ := appendZeros_ok hp.tracks
    refine ⟨_, _, h, ?_, ⟨ht, hp.room⟩, hext.hold (List.subset_cons_self _ _), rfl,
      Nat.le_add_right _ _, Nat.le_of_eq hpages⟩
    rw [allocate, Action.bind_ok (popHead_none hhead)]
    exact hrun
  · obtain ⟨id, q, g, grown, hrun, hid, hready, hext, hmoves, htail, hpages⟩ :=
      popHead_some hp (by omega) hseq hcount
    have hone := Advances.of_moves hp hready hext hmoves htail hpages
    have hmem : id ∈ id :: held := List.mem_cons_self
    have hrange := hready.tracks.list.held_range hmem
    obtain ⟨t, hrun', hbec⟩ := LawfulPageStore.modify_ok (fun b => Bytes.zeros b.length)
      hready.tracks.sound hrange.2
      (by rw [Bytes.length_zeros, LawfulPageStore.length_page hready.tracks.sound hrange.2])
    have hother : ∀ i, i ≠ id → Function.update (page q.pages) id
        (Bytes.zeros (page q.pages id).length) i = page q.pages i :=
      fun i hne => Function.update_of_ne hne _ _
    have hready' := hready.of_becomes hbec fun i hi => hother i (List.ne_of_not_mem_cons hi)
    -- the page has left the list, so it is none of the untouched pages
    have hext' : q.Extends ⟨q.free, t⟩ g g held held := by
      refine Extends.of_becomes hbec (fun i hi => hother i ?_) rfl rfl (Nat.le_refl _)
      rintro rfl
      rcases List.mem_append.mp hi with hheld | hitem
      · exact (List.nodup_cons.mp hready.tracks.list.nodup_held).1 hheld
      · exact hready.tracks.list.notMem_held_of_item
          (hready.tracks.list.mem_drop_headSeq hitem) hmem
    refine ⟨id, _, g, ?_, hready', (hext.same_held.trans hext').hold (List.subset_cons_self _ _),
      hone.tailSeq_add, hone.tailSeq_le, ?_⟩
    · rw [allocate, Action.bind_ok hrun]
      show (onPages (PageStore.modify id fun b => Bytes.zeros b.length) >>= fun _ => pure id) q = _
      rw [onPages_bind_ok hrun']
      rfl
    · show PageStore.pageCount t ≤ PageStore.pageCount p.pages + 1
      rw [hbec.pageCount_eq]
      exact hone.pageCount_le

/-- Several pages to write to. -/
theorem allocateMany_ok (n : Nat) (hp : p.Ready h held)
    (hseq : p.free.tailSeq + 2 * n < 2 ^ 64)
    (hcount : PageStore.pageCount p.pages + n < 2 ^ 64) :
    ∃ ids q g, allocateMany n p = .ok ids q ∧ ids.length = n ∧ q.Ready g (ids ++ held) ∧
      p.Extends q h g held (ids ++ held) ∧ p.Advances q n 0 := by
  induction n generalizing p h held with
  | zero => exact ⟨[], p, h, rfl, rfl, hp, Extends.refl, Advances.refl⟩
  | succ n ih =>
    obtain ⟨id, q, g, hrun, hready, hext, hadv⟩ := allocate_ok hp (by omega) (by omega)
    have htail := hadv.tailSeq_le
    have hpages := hadv.pageCount_le
    obtain ⟨ids, r, f, hrun', hlen, hready', hext', hadv'⟩ :=
      ih hready (by omega) (by omega)
    have hperm : (ids ++ id :: held).Perm (id :: ids ++ held) := List.perm_middle
    refine ⟨id :: ids, r, f, ?_, ?_, hready'.of_perm hperm, ?_, ?_⟩
    · rw [allocateMany, Action.bind_ok hrun, Action.bind_ok hrun']
      rfl
    · rw [List.length_cons, hlen]
    · exact (hext.trans hext').hold hperm.subset
    · rw [Nat.add_comm n]
      exact hadv.trans hadv'

end PagePool

end PagedTables
