/-
# Where pages come from

A free list adds a page to the file only when no item may leave any more, and hands out only
pages that are there. This needs nothing of the pages: it holds of damaged lists too, and of
operations that fail on the way.

* `PagePool.Frugal` : between the states before and after an operation;
* `PagePool.frugal_allocateMany`, `PagePool.frugal_pushAll` : several pages taken or given back;
* `PagePool.allocateMany_range` : the pages that are handed out.
-/
import PagedTables.Proofs.FreeList.Steps
import PagedTables.Proofs.Pages.Effects

namespace PagedTables

open PagedTables.Action

namespace PagePool

variable {α : Type} {p q r : PagePool PageFile} {item : Option PageId}

/-! ## Between two states -/

/-- The watermark stays; once the head has reached it, it stays too, and only then pages are
added. -/
structure Frugal (p q : PagePool PageFile) : Prop where
  watermark_eq : q.free.watermark = p.free.watermark
  pageCount_le : p.pages.pageCount ≤ q.pages.pageCount
  exhausted : p.free.headSeq = p.free.watermark → q.free.headSeq = q.free.watermark
  appended : p.pages.pageCount < q.pages.pageCount → q.free.headSeq = q.free.watermark

instance : Std.Refl Frugal :=
  ⟨fun _ => ⟨rfl, Nat.le_refl _, id, fun hlt => absurd hlt (Nat.lt_irrefl _)⟩⟩

theorem Frugal.trans (hpq : p.Frugal q) (hqr : q.Frugal r) : p.Frugal r where
  watermark_eq := hqr.watermark_eq.trans hpq.watermark_eq
  pageCount_le := Nat.le_trans hpq.pageCount_le hqr.pageCount_le
  exhausted hp := hqr.exhausted (hpq.exhausted hp)
  appended hlt := by
    rcases Nat.lt_or_ge q.pages.pageCount r.pages.pageCount with hlt' | hle
    · exact hqr.appended hlt'
    · exact hqr.exhausted (hpq.appended (Nat.lt_of_lt_of_le hlt hle))

instance : Trans Frugal Frugal Frugal :=
  ⟨Frugal.trans⟩

/-- An operation that neither moves the head nor adds pages. -/
theorem Frugal.of_head_eq (hhead : q.free.headSeq = p.free.headSeq)
    (hmark : q.free.watermark = p.free.watermark) (hcount : p.pages.SameCount q.pages) :
    p.Frugal q where
  watermark_eq := hmark
  pageCount_le := Nat.le_of_eq hcount.symm
  exhausted hp := by rw [hhead, hmark, hp]
  appended hlt := absurd hlt (Nat.not_lt_of_le (Nat.le_of_eq hcount))

/-- Below the watermark the head may move. -/
theorem Frugal.of_ne (hne : p.free.headSeq ≠ p.free.watermark)
    (hmark : q.free.watermark = p.free.watermark) (hcount : p.pages.SameCount q.pages) :
    p.Frugal q where
  watermark_eq := hmark
  pageCount_le := Nat.le_of_eq hcount.symm
  exhausted hp := absurd hp hne
  appended hlt := absurd hlt (Nat.not_lt_of_le (Nat.le_of_eq hcount))

/-! ## The parts of the operations -/

/-- Only the pages may differ, not their number. -/
def SameFree (p q : PagePool PageFile) : Prop :=
  q.free = p.free ∧ p.pages.SameCount q.pages

/-- What leaves the list alone, and adds no page, is frugal. -/
theorem SameFree.frugal (h : p.SameFree q) : p.Frugal q :=
  .of_head_eq (by rw [h.1]) (by rw [h.1]) h.2

theorem sameFree_onPages {act : Action StoreError PageFile α}
    (h : Keeps PageFile.SameCount act p.pages) : Keeps SameFree (onPages act) p :=
  Keeps.part h fun _ ht => ⟨rfl, ht⟩

theorem sameFree_read (id : PageId) : Keeps SameFree (onPages (PageStore.read id)) p :=
  sameFree_onPages ((PageFile.loads_read id).mono fun _ h => h.sameCount)

theorem frugal_modify (id : PageId) (edit : Bytes → Bytes) :
    Keeps Frugal (onPages (PageStore.modify id edit)) p :=
  (sameFree_onPages (PageFile.sameCount_change id edit)).mono fun _ h => h.frugal

theorem frugal_updateFree {edit : FreeList → FreeList}
    (hhead : (edit p.free).headSeq = p.free.headSeq)
    (hmark : (edit p.free).watermark = p.free.watermark) : Keeps Frugal (updateFree edit) p :=
  .change (.of_head_eq hhead hmark rfl)

/-- At the watermark a page may be added. -/
theorem frugal_appendZeros (hhead : p.free.headSeq = p.free.watermark) :
    Keeps Frugal appendZeros p := by
  refine .read (Keeps.part (T := fun f g => f.pageCount ≤ g.pageCount) ?_ fun _ hle => ?_)
  · rcases PageFile.append_cases (Bytes.zeros p.pages.pageSize) p.pages with
      ⟨e, hrun⟩ | ⟨g, hrun, hcount⟩
    · exact .of_error hrun (Nat.le_refl _)
    · exact .of_ok hrun (by omega)
  · exact ⟨rfl, hle, fun _ => hhead, fun _ => hhead⟩

theorem frugal_pop : Keeps Frugal pop p := by
  by_cases hhead : p.free.headSeq = p.free.watermark
  · exact .of_ok (pop_none hhead) (Std.Refl.refl p)
  · refine .read ?_
    simp only [if_neg hhead]
    refine ((sameFree_read _).mono fun _ h => h.frugal).bind fun node t hrun => ?_
    -- the head page is read before the head moves
    have hne : t.free.headSeq ≠ t.free.watermark := by
      rw [((sameFree_read _).ok hrun).1]
      exact hhead
    have hmove : ∀ edit : FreeList → FreeList, (edit t.free).watermark = t.free.watermark →
        Keeps Frugal (updateFree edit) t := fun edit hmark => .change (.of_ne hne hmark rfl)
    split
    · exact .fail _
    · split
      · exact (hmove _ rfl).bind fun _ _ _ => .answer _
      · split
        · exact .fail _
        · exact (hmove _ rfl).bind fun _ _ _ => .answer _

/-- Only at the watermark no item leaves. -/
theorem pop_eq_none {node : Option PageId} (h : pop p = .ok (none, node) q) :
    q = p ∧ node = none ∧ p.free.headSeq = p.free.watermark := by
  by_cases hhead : p.free.headSeq = p.free.watermark
  · rw [pop_none hhead] at h
    injection h with hnone hpq
    exact ⟨hpq.symm, (Prod.mk.inj hnone).2.symm, hhead⟩
  · rw [pop, get_bind] at h
    simp only [if_neg hhead] at h
    obtain ⟨page, t, -, h⟩ := exists_of_bind_ok h
    exfalso
    split at h
    · cases h
    · split at h
      · cases h
      · split at h <;> cases h

/-! ## The operations -/

theorem frugal_linkNode (next : PageId) (node : Option PageId) :
    Keeps Frugal (linkNode next node) p := by
  refine .read ?_
  refine (frugal_modify _ _).bind fun _ _ _ => ?_
  refine (frugal_modify _ _).bind fun _ _ _ => ?_
  refine (frugal_updateFree rfl rfl).bind fun _ _ _ => ?_
  cases node with
  | none => exact .answer _
  | some node => exact (frugal_modify _ _).bind fun _ _ _ => frugal_updateFree rfl rfl

/-- A page is appended for a node only if nothing can be taken off the list. -/
theorem frugal_addNode : Keeps Frugal addNode p := by
  rw [addNode_eq]
  refine frugal_pop.bind fun ⟨item, node⟩ q hpop => ?_
  cases item with
  | some id => exact (Keeps.answer id).bind fun next _ _ => frugal_linkNode next node
  | none =>
    obtain ⟨rfl, -, hhead⟩ := pop_eq_none hpop
    exact (frugal_appendZeros hhead).bind fun next _ _ => frugal_linkNode next node

theorem frugal_pushTail (item : PageId) : Keeps Frugal (pushTail item) p := by
  refine .read ?_
  refine (frugal_modify _ _).bind fun _ _ _ => ?_
  refine (frugal_updateFree rfl rfl).bind fun _ _ _ => ?_
  split
  · exact frugal_addNode
  · exact .answer _

theorem frugal_popHead : Keeps Frugal popHead p := by
  refine frugal_pop.bind fun ⟨item, node⟩ _ _ => ?_
  cases node with
  | none => exact .answer _
  | some node => exact (frugal_pushTail node).bind fun _ _ _ => .answer _

/-- Only at the watermark no item leaves at the head. -/
theorem popHead_eq_none (h : popHead p = .ok none q) :
    q = p ∧ p.free.headSeq = p.free.watermark := by
  obtain ⟨⟨item, node⟩, t, hpop, h⟩ := exists_of_bind_ok h
  cases node with
  | none =>
    injection h with hitem htq
    subst hitem htq
    obtain ⟨rfl, -, hhead⟩ := pop_eq_none hpop
    exact ⟨rfl, hhead⟩
  | some node =>
    obtain ⟨_, u, -, h⟩ := exists_of_bind_ok h
    injection h with hitem _
    subst hitem
    cases (pop_eq_none hpop).2.1

theorem frugal_pushAll (items : List PageId) : Keeps Frugal (pushAll items) p := by
  induction items generalizing p with
  | nil => exact .answer _
  | cons item rest ih => exact (frugal_pushTail item).bind fun _ _ _ => ih

/-- A page is appended for data only if none can be handed out. -/
theorem frugal_allocate : Keeps Frugal allocate p := by
  refine frugal_popHead.bind fun item q hpop => ?_
  cases item with
  | some id => exact (frugal_modify _ _).bind fun _ _ _ => .answer _
  | none =>
    obtain ⟨rfl, hhead⟩ := popHead_eq_none hpop
    exact frugal_appendZeros hhead

theorem frugal_allocateMany (n : Nat) : Keeps Frugal (allocateMany n) p := by
  induction n generalizing p with
  | zero => exact .answer _
  | succ n ih => exact frugal_allocate.bind fun _ _ _ => ih.bind fun _ _ _ => .answer _

/-! ## Pages that are handed out -/

/-- A null link is never handed out. -/
theorem pop_ne_null {id : PageId} {node : Option PageId} (h : pop p = .ok (some id, node) q) :
    id ≠ PageId.null := by
  by_cases hhead : p.free.headSeq = p.free.watermark
  · rw [pop_none hhead] at h
    cases h
  · rw [pop, get_bind] at h
    simp only [if_neg hhead] at h
    obtain ⟨page, t, -, h⟩ := exists_of_bind_ok h
    split at h
    · cases h
    · next hne =>
      split at h
      · injection h with hid _
        exact Option.some.inj (Prod.mk.inj hid).1 ▸ hne
      · split at h
        · cases h
        · injection h with hid _
          exact Option.some.inj (Prod.mk.inj hid).1 ▸ hne

/-- Page 0 is never handed out. -/
theorem popHead_ne_null {id : PageId} (h : popHead p = .ok (some id) q) : id ≠ PageId.null := by
  obtain ⟨⟨item, node⟩, t, hpop, h⟩ := exists_of_bind_ok h
  cases node with
  | none =>
    injection h with hitem _
    exact pop_ne_null (hitem ▸ hpop)
  | some node =>
    obtain ⟨_, u, -, h⟩ := exists_of_bind_ok h
    injection h with hitem _
    exact pop_ne_null (hitem ▸ hpop)

/-- **What is handed out** is a page of the file, and not the meta page. -/
theorem allocate_range {id : PageId} (h : allocate p = .ok id q) (hpos : 0 < p.pages.pageCount) :
    0 < id ∧ id < q.pages.pageCount := by
  obtain ⟨item, t, hpop, hrest⟩ := exists_of_bind_ok h
  cases item with
  | some item =>
    obtain ⟨_, u, hmodify, hrest⟩ := exists_of_bind_ok hrest
    injection hrest with hid hq
    subst hid hq
    obtain ⟨f, hchange, rfl⟩ := exists_of_within_ok hmodify
    have hsame : f.pageCount = t.pages.pageCount :=
      (PageFile.sameCount_change item _).ok hchange
    refine ⟨Nat.pos_of_ne_zero (popHead_ne_null hpop), ?_⟩
    show item < f.pageCount
    rw [hsame]
    exact PageFile.lt_of_change_ok hchange
  | none =>
    obtain ⟨rfl, -⟩ := popHead_eq_none hpop
    obtain ⟨f, happend, rfl⟩ := exists_of_within_ok
      (show onPages (PageFile.append (Bytes.zeros t.pages.pageSize)) t = .ok id q from hrest)
    rcases PageFile.append_cases (Bytes.zeros t.pages.pageSize) t.pages with
      ⟨e, hrun⟩ | ⟨g, hrun, hcount⟩
    · rw [hrun] at happend
      cases happend
    · rw [hrun] at happend
      injection happend with hid hg
      subst hid hg
      exact ⟨hpos, by show t.pages.pageCount < g.pageCount; omega⟩

/-- Pages of data are pages of the file, and none is the meta page. -/
theorem allocateMany_range {n : Nat} {ids : List PageId} (h : allocateMany n p = .ok ids q)
    (hpos : 0 < p.pages.pageCount) : ∀ id ∈ ids, 0 < id ∧ id < q.pages.pageCount := by
  induction n generalizing p ids with
  | zero =>
    injection h with hids _
    rw [← hids]
    exact nofun
  | succ n ih =>
    obtain ⟨first, t, hfirst, h⟩ := exists_of_bind_ok h
    obtain ⟨rest, u, hrest, h⟩ := exists_of_bind_ok h
    injection h with hids hq
    subst hids hq
    have hle := (frugal_allocate.ok hfirst).pageCount_le
    have hle' := ((frugal_allocateMany n).ok hrest).pageCount_le
    intro id hid
    rcases List.mem_cons.mp hid with rfl | hid
    · have hr := allocate_range hfirst hpos
      exact ⟨hr.1, Nat.lt_of_lt_of_le hr.2 hle'⟩
    · exact ih hrest (Nat.lt_of_lt_of_le hpos hle) id hid

end PagePool

end PagedTables
