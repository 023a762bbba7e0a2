/-
# Draining a free list

Pages are pushed onto a new list, all of them may leave, and as many are popped. The nodes that
are used up on the way enter behind them; where one fills the last node, the next item does not
leave but becomes the new last node.

* `PagePool.BecomesNode` : which items those are;
* `PagePool.Filled.pushAll` : the pages lie one behind the other in a chain of nodes;
* `PagePool.Draining.popHead` : what one pop hands out and leaves;
* `PagePool.drain` : what is handed out by as many pops as pages were pushed.
-/
import Mathlib
import PagedTables.Proofs.FreeList.Steps

namespace PagedTables

open PageView (page)

theorem PageView.Becomes.trans {σ : Type} [PageStore σ] [PageView σ] {s t u : σ} {m n : Nat}
    {pages pages' : PageId → Bytes} (h : PageView.Becomes s t m pages)
    (h' : PageView.Becomes t u n pages') : PageView.Becomes s u n pages' where
  sound := h'.sound
  pageSize_eq := h'.pageSize_eq.trans h.pageSize_eq
  pageCount_eq := h'.pageCount_eq
  page_eq := h'.page_eq
  rest_eq := h'.rest_eq.trans h.rest_eq

namespace PagePool

variable {σ : Type} [PageStore σ]

/-! ## What is handed out -/

/-- The answers when several pages are asked for. -/
def popMany : Nat → Action StoreError (PagePool σ) (List (Option PageId))
  | 0 => return []
  | n + 1 => do
    let answer ← popHead
    return answer :: (← popMany n)

/-- Pushes pages, lets all of them leave, and asks for as many. -/
def pushThenPop (ids : List PageId) : Action StoreError (PagePool σ) (List (Option PageId)) := do
  pushAll ids
  updateFree FreeList.raiseWatermark
  popMany ids.length

/-- Tells which of `m` items becomes a node while they leave nodes of `c` slots: the first one in
its node, if the used-up nodes before it have just filled the last node. -/
def BecomesNode (c m i : Nat) : Prop :=
  0 < i ∧ i % c = 0 ∧ (m + i / c) % c = 0

instance (c m i : Nat) : Decidable (BecomesNode c m i) :=
  inferInstanceAs (Decidable (_ ∧ _ ∧ _))

/-- The items that are handed out, of those from number `i` on. -/
def handedOut (c m : Nat) : Nat → List PageId → List PageId
  | _, [] => []
  | i, id :: rest =>
    if BecomesNode c m i then handedOut c m (i + 1) rest
    else id :: handedOut c m (i + 1) rest

/-- What is answered when as many pages are asked for as were pushed. -/
def drained (c : Nat) (ids : List PageId) : List (Option PageId) :=
  (handedOut c ids.length 0 ids).map some ++
    List.replicate (ids.length - (handedOut c ids.length 0 ids).length) none

/-! ## Items in a chain of nodes -/

/-- The nodes of a list that began with one node, when the store had `base` pages. -/
def nodeOf (base node : Nat) : Nat → Nat
  | 0 => node
  | k + 1 => base + k

variable {c base node lo n : Nat} {xs ids : List PageId} {pages : PageId → Bytes}

/-- At the first slot of a node the number of the node goes up. -/
theorem succ_div_of_first {i : Nat} (h : (i + 1) % c = 0) : (i + 1) / c = i / c + 1 :=
  Nat.succ_div_of_dvd (Nat.dvd_of_mod_eq_zero h)

theorem succ_div_of_not_first {i : Nat} (h : ¬ (i + 1) % c = 0) : (i + 1) / c = i / c :=
  Nat.succ_div_of_not_dvd fun hdvd => h (Nat.mod_eq_zero_of_dvd hdvd)

/-- In nodes of two slots or more, the slot after the first one is another one. -/
theorem not_first_succ {i : Nat} (hc : 2 ≤ c) (h : i % c = 0) : ¬ (i + 1) % c = 0 := by
  rw [Nat.add_mod, h, Nat.zero_add, Nat.mod_mod, Nat.mod_eq_of_lt hc]
  exact Nat.one_ne_zero

/-- The slot after one that is not the last one has the next number. -/
theorem succ_mod_of_not_first {i : Nat} (hc : 2 ≤ c) (h : ¬ (i + 1) % c = 0) :
    (i + 1) % c = i % c + 1 := by
  have hlt := Nat.mod_lt i (Nat.zero_lt_of_lt hc)
  have hadd := Nat.add_mod i 1 c
  rw [Nat.mod_eq_of_lt hc] at hadd
  rcases Nat.lt_or_eq_of_le (Nat.succ_le_of_lt hlt) with hlt' | heq
  · rw [hadd, Nat.mod_eq_of_lt hlt']
  · rw [hadd, show i % c + 1 = c from heq, Nat.mod_self] at h
    exact absurd rfl h

/-- The nodes are the one that the list has started with and the pages appended since. -/
theorem nodeOf_lt (hnode : node < base) (k : Nat) : nodeOf base node k < base + k := by
  cases k with
  | zero => exact hnode
  | succ k => exact Nat.lt_succ_self _

/-- Different nodes are different pages. -/
theorem nodeOf_inj (hnode : node < base) {j k : Nat} (h : nodeOf base node j = nodeOf base node k) :
    j = k := by
  cases j <;> cases k <;> simp only [nodeOf] at h <;> omega

/-- The items from number `lo` on lie in the nodes, and the first `n` links lead from node to
node. -/
structure Holds (c base node : Nat) (xs : List PageId) (lo n : Nat) (pages : PageId → Bytes) :
    Prop where
  le : n ≤ xs.length / c
  slot_eq : ∀ i id, lo ≤ i → xs[i]? = some id →
    FreeNode.slot (pages (nodeOf base node (i / c))) (i % c) = id
  link_eq : ∀ j, lo / c ≤ j → j < n →
    FreeNode.link (pages (nodeOf base node j)) = nodeOf base node (j + 1)

/-- A change of a page does no harm to the items: the page is none of their nodes, or it is one
that is not linked yet and keeps its items. -/
def Spares (c base node : Nat) (xs : List PageId) (lo n id : Nat) (old new : Bytes) : Prop :=
  ∀ j, lo / c ≤ j → j ≤ xs.length / c → id = nodeOf base node j →
    n ≤ j ∧ ∀ i < xs.length, i / c = j → FreeNode.slot new (i % c) = FreeNode.slot old (i % c)

theorem Holds.mono (h : Holds c base node xs lo n pages) {lo' : Nat} (hlo : lo ≤ lo') :
    Holds c base node xs lo' n pages where
  le := h.le
  slot_eq i id hi := h.slot_eq i id (Nat.le_trans hlo hi)
  link_eq j hj := h.link_eq j (Nat.le_trans (Nat.div_le_div_right hlo) hj)

/-- A list is not touched by a page that changes where the list does not look. -/
theorem Holds.update (h : Holds c base node xs lo n pages) {id : PageId} {new : Bytes}
    (hspares : Spares c base node xs lo n id (pages id) new) :
    Holds c base node xs lo n (Function.update pages id new) where
  le := h.le
  slot_eq i item hi hitem := by
    have hlen := (List.getElem?_eq_some_iff.mp hitem).1
    by_cases hid : nodeOf base node (i / c) = id
    · obtain ⟨-, hslots⟩ := hspares (i / c) (Nat.div_le_div_right hi)
        (Nat.div_le_div_right (Nat.le_of_lt hlen)) hid.symm
      rw [hid, Function.update_self, hslots i hlen rfl, ← hid]
      exact h.slot_eq i item hi hitem
    · rw [Function.update_of_ne hid]
      exact h.slot_eq i item hi hitem
  link_eq j hj hjn := by
    rw [Function.update_of_ne]
    · exact h.link_eq j hj hjn
    · intro hid
      have hle := (hspares j hj (Nat.le_trans (Nat.le_of_lt hjn) h.le) hid.symm).1
      omega

/-- An item is put behind the others. -/
theorem Holds.put (h : Holds c base node xs lo n pages) (hnode : node < base) {x : PageId}
    (hx : x < 2 ^ 64) (hn : n = xs.length / c) (hc : 0 < c)
    (hcap : FreeNode.capacity (pages (nodeOf base node n)).length = c) :
    Holds c base node (xs ++ [x]) lo n (Function.update pages (nodeOf base node n)
      (FreeNode.setSlot (xs.length % c) x (pages (nodeOf base node n)))) where
  le := by
    rw [hn, List.length_append]
    exact Nat.div_le_div_right (Nat.le_add_right _ _)
  slot_eq i id hi hid := by
    by_cases hlt : i < xs.length
    · rw [List.getElem?_append_left hlt] at hid
      have hspares : Spares c base node xs lo n (nodeOf base node n)
          (pages (nodeOf base node n))
          (FreeNode.setSlot (xs.length % c) x (pages (nodeOf base node n))) := by
        intro j hj hjle hjn
        obtain rfl := nodeOf_inj hnode hjn
        refine ⟨Nat.le_refl _, fun i hi hdiv => FreeNode.slot_setSlot_of_ne ?_ ?_⟩
        · intro hmod
          have hieq := Nat.div_add_mod i c
          have hxeq := Nat.div_add_mod xs.length c
          rw [hdiv, hn, ← hmod, hxeq] at hieq
          omega
        · rw [hcap]
          exact Nat.mod_lt _ hc
      exact (h.update hspares).slot_eq i id hi hid
    · have hlen := (List.getElem?_eq_some_iff.mp hid).1
      rw [List.length_append, List.length_singleton] at hlen
      obtain rfl : i = xs.length := by omega
      rw [List.getElem?_concat_length] at hid
      rw [← hn, Function.update_self, FreeNode.slot_setSlot hx]
      exact Option.some.inj hid
  link_eq j hj hjn := by
    rw [Function.update_of_ne]
    · exact h.link_eq j hj hjn
    · intro hid
      have heq := nodeOf_inj hnode hid
      omega

/-- The last node is linked to one more. -/
theorem Holds.link (h : Holds c base node xs lo n pages) (hnode : node < base)
    (hle : n + 1 ≤ xs.length / c) (hc : 0 < c) (hfits : base + n < 2 ^ 64)
    (hcap : FreeNode.capacity (pages (nodeOf base node n)).length = c) :
    Holds c base node xs lo (n + 1) (Function.update pages (nodeOf base node n)
      (FreeNode.setLink (nodeOf base node (n + 1)) (pages (nodeOf base node n)))) where
  le := hle
  slot_eq := by
    refine (h.update fun j _ _ hjn => ?_).slot_eq
    obtain rfl := nodeOf_inj hnode hjn
    refine ⟨Nat.le_refl _, fun i _ _ => FreeNode.slot_setLink ?_⟩
    rw [hcap]
    exact Nat.mod_lt _ hc
  link_eq j hj hjn := by
    rcases Nat.lt_or_eq_of_le (Nat.le_of_lt_succ hjn) with hlt | rfl
    · rw [Function.update_of_ne]
      · exact h.link_eq j hj hlt
      · intro hid
        have heq := nodeOf_inj hnode hid
        omega
    · rw [Function.update_self, FreeNode.link_setLink]
      exact hfits

/-! ## Changes of the pages -/

section Pages

variable [PageView σ] [LawfulPageStore σ] {s : σ} {p : PagePool σ}

theorem capacity_length_page (hs : PageView.Sound s)
    (hcap : FreeNode.capacity (PageStore.pageSize s) = c) {id : PageId}
    (hid : id < PageStore.pageCount s) : FreeNode.capacity (page s id).length = c := by
  rw [LawfulPageStore.length_page hs hid, hcap]

/-- Putting an item into a slot changes one page. -/
theorem setSlot_ok (item : PageId) (hs : PageView.Sound s)
    (hcap : FreeNode.capacity (PageStore.pageSize s) = c) {id : PageId}
    (hid : id < PageStore.pageCount s) {i : Nat} (hi : i < c) :
    ∃ t, PageStore.modify id (FreeNode.setSlot i item) s = .ok () t ∧
      PageView.Becomes s t (PageStore.pageCount s)
        (Function.update (page s) id (FreeNode.setSlot i item (page s id))) := by
  refine LawfulPageStore.modify_ok _ hs hid ?_
  rw [FreeNode.length_setSlot, LawfulPageStore.length_page hs hid]
  rwa [capacity_length_page hs hcap hid]

theorem setLink_ok (next : PageId) (hs : PageView.Sound s)
    (hcap : FreeNode.capacity (PageStore.pageSize s) = c) (hc : 0 < c) {id : PageId}
    (hid : id < PageStore.pageCount s) :
    ∃ t, PageStore.modify id (FreeNode.setLink next) s = .ok () t ∧
      PageView.Becomes s t (PageStore.pageCount s)
        (Function.update (page s) id (FreeNode.setLink next (page s id))) := by
  refine LawfulPageStore.modify_ok _ hs hid ?_
  rw [FreeNode.length_setLink (i := 0), LawfulPageStore.length_page hs hid]
  rwa [capacity_length_page hs hcap hid]

/-- A page becomes the last node, with nothing loose. -/
theorem linkNode_none {next : Nat} (hs : PageView.Sound p.pages)
    (hcap : FreeNode.capacity (PageStore.pageSize p.pages) = c) (hc : 0 < c)
    (htail : p.free.tailPage < PageStore.pageCount p.pages)
    (hnext : next < PageStore.pageCount p.pages) :
    ∃ t, linkNode next none p = .ok () ⟨{ p.free with tailPage := next }, t⟩ ∧
      ∀ linked, linked = Function.update (page p.pages) p.free.tailPage
          (FreeNode.setLink next (page p.pages p.free.tailPage)) →
        PageView.Becomes p.pages t (PageStore.pageCount p.pages)
          (Function.update linked next (FreeNode.setLink PageId.null (linked next))) := by
  obtain ⟨t, hrun, hbec⟩ := setLink_ok next hs hcap hc htail
  have hcap' : FreeNode.capacity (PageStore.pageSize t) = c := by rw [hbec.pageSize_eq, hcap]
  have hnext' : next < PageStore.pageCount t := by rwa [hbec.pageCount_eq]
  obtain ⟨u, hrun', hbec'⟩ := setLink_ok PageId.null hbec.sound hcap' hc hnext'
  rw [hbec.pageCount_eq, hbec.page_eq] at hbec'
  refine ⟨u, ?_, ?_⟩
  · rw [linkNode, Action.get_bind, onPages_bind_ok hrun, onPages_bind_ok hrun', updateFree_bind]
    rfl
  · rintro linked rfl
    exact hbec.trans hbec'

/-- A new node is a page of zeros behind the last one. -/
theorem appendZeros_run (hs : PageView.Sound p.pages) :
    ∃ t, appendZeros p = .ok (PageStore.pageCount p.pages) ⟨p.free, t⟩ ∧
      PageView.Becomes p.pages t (PageStore.pageCount p.pages + 1)
        (Function.update (page p.pages) (PageStore.pageCount p.pages)
          (Bytes.zeros (PageStore.pageSize p.pages))) := by
  obtain ⟨t, hrun, hbec⟩ := LawfulPageStore.append_ok hs
    (Bytes.length_zeros (PageStore.pageSize p.pages))
  refine ⟨t, ?_, hbec⟩
  rw [appendZeros, Action.get_bind, onPages_ok hrun]

end Pages

/-! ## Filling a list -/

section Filling

variable [PageView σ] {p : PagePool σ} {x : PageId}

/-- A list from which nothing has left yet: its items lie in the first node and in nodes behind
the pages that the store had. -/
structure Filled (c base node : Nat) (xs : List PageId) (p : PagePool σ) : Prop where
  sound : PageView.Sound p.pages
  capacity_eq : FreeNode.capacity (PageStore.pageSize p.pages) = c
  free_eq : p.free = ⟨⟨node, 0, nodeOf base node (xs.length / c), xs.length⟩, 0, c⟩
  pageCount_eq : PageStore.pageCount p.pages = base + xs.length / c
  holds : Holds c base node xs 0 (xs.length / c) (page p.pages)

/-- A new list has nothing pushed. -/
theorem filled_new {s : σ} (hs : PageView.Sound s) (node : PageId) :
    Filled (FreeNode.capacity (PageStore.pageSize s)) (PageStore.pageCount s) node []
      ⟨FreeList.new node (PageStore.pageSize s), s⟩ where
  sound := hs
  capacity_eq := rfl
  free_eq := by
    rw [List.length_nil, Nat.zero_div]
    rfl
  pageCount_eq := by
    rw [List.length_nil, Nat.zero_div]
    rfl
  holds := by
    rw [List.length_nil, Nat.zero_div]
    refine ⟨Nat.zero_le _, ?_, ?_⟩
    · intro i id _ hid
      cases hid
    · intro j _ hj
      exact absurd hj (Nat.not_lt_zero j)

variable [LawfulPageStore σ]

/-- Behind a node that is full, the list is continued on a new page. -/
theorem filled_of_full {s : σ} {k : Nat} (hs : PageView.Sound s)
    (hcap : FreeNode.capacity (PageStore.pageSize s) = c) (hpos : 0 < c) (hnode : node < base)
    (hcount : PageStore.pageCount s = base + k) (hholds : Holds c base node xs 0 k (page s))
    (hfull : xs.length = (k + 1) * c) (hfits : base + k < 2 ^ 64) :
    ∃ q, addNode ⟨⟨⟨node, 0, nodeOf base node k, xs.length⟩, 0, c⟩, s⟩ = .ok () q ∧
      Filled c base node xs q := by
  have hdiv : xs.length / c = k + 1 := by
    rw [hfull]
    exact Nat.mul_div_cancel _ hpos
  -- the new page holds no items
  have hempty : ∀ {m : Nat} {old new : Bytes}, m ≤ k + 1 →
      Spares c base node xs 0 m (nodeOf base node (k + 1)) old new := by
    intro m old new hm j _ _ hj
    obtain rfl := nodeOf_inj hnode hj
    refine ⟨hm, fun i hi hik => ?_⟩
    have hlt : i / c < k + 1 := (Nat.div_lt_iff_lt_mul hpos).mpr (hfull ▸ hi)
    omega
  obtain ⟨t, hrun, hbec⟩ := appendZeros_run (p := ⟨⟨⟨node, 0, nodeOf base node k, xs.length⟩, 0,
    c⟩, s⟩) hs
  simp only [hcount] at hrun hbec
  have hgrown : Holds c base node xs 0 k (page t) := by
    rw [hbec.page_eq]
    exact hholds.update (hempty (Nat.le_succ _))
  have hcap' : FreeNode.capacity (PageStore.pageSize t) = c := by rw [hbec.pageSize_eq, hcap]
  have hlast : nodeOf base node k < PageStore.pageCount t := by
    rw [hbec.pageCount_eq]
    exact Nat.lt_succ_of_lt (nodeOf_lt hnode _)
  have hnew : base + k < PageStore.pageCount t := by
    rw [hbec.pageCount_eq]
    exact Nat.lt_succ_self _
  obtain ⟨u, hrun', hlink⟩ := linkNode_none (p := ⟨⟨⟨node, 0, nodeOf base node k, xs.length⟩, 0,
    c⟩, t⟩) hbec.sound hcap' hpos hlast hnew
  have hbec' := hlink _ rfl
  have hlinked := hgrown.link hnode (Nat.le_of_eq hdiv.symm) hpos hfits
    (capacity_length_page hbec.sound hcap' hlast)
  refine ⟨⟨⟨⟨node, 0, base + k, xs.length⟩, 0, c⟩, u⟩, ?_, hbec'.sound, ?_, ?_, ?_, ?_⟩
  · rw [addNode_eq, Action.bind_ok (pop_none rfl)]
    show (appendZeros >>= fun next => linkNode next none) _ = _
    rw [Action.bind_ok hrun]
    exact hrun'
  · rw [hbec'.pageSize_eq, hcap']
  · rw [hdiv]
    rfl
  · rw [hdiv]
    exact hbec'.pageCount_eq.trans hbec.pageCount_eq
  · rw [hdiv, hbec'.page_eq]
    exact hlinked.update (hempty (Nat.le_refl _))

/-- **One more item** lies behind the others; a node that it fills is followed by a new page. -/
theorem Filled.pushTail (hp : Filled c base node xs p) (hc : 2 ≤ c) (hnode : node < base)
    (hx : x < 2 ^ 64) (hfits : base + xs.length + 1 < 2 ^ 64) :
    ∃ q, PagePool.pushTail x p = .ok () q ∧ Filled c base node (xs ++ [x]) q := by
  obtain ⟨l, s⟩ := p
  obtain ⟨hs, hcap, rfl, hcount, hholds⟩ := hp
  simp only at hs hcap hcount hholds
  have hpos : 0 < c := Nat.zero_lt_of_lt hc
  have hdiv : xs.length / c ≤ xs.length := Nat.div_le_self _ _
  have htail : nodeOf base node (xs.length / c) < PageStore.pageCount s := by
    rw [hcount]
    exact nodeOf_lt hnode _
  obtain ⟨t, hrun, hbec⟩ := setSlot_ok x hs hcap htail (Nat.mod_lt xs.length hpos)
  have hput := hholds.put hnode hx rfl hpos (capacity_length_page hs hcap htail)
  rw [← hbec.page_eq] at hput
  have hcap' : FreeNode.capacity (PageStore.pageSize t) = c := by rw [hbec.pageSize_eq, hcap]
  have hcount' := hbec.pageCount_eq.trans hcount
  have hnext : nextSeq xs.length = xs.length + 1 := nextSeq_of_lt (by omega)
  have hlen : (xs ++ [x]).length = xs.length + 1 := by
    rw [List.length_append, List.length_singleton]
  rw [PagePool.pushTail, Action.get_bind, onPages_bind_ok hrun, updateFree_bind]
  simp only [hnext]
  show ∃ q, (if (xs.length + 1) % c = 0 then addNode else pure ()) _ = _ ∧ _
  by_cases hfirst : (xs.length + 1) % c = 0
  · have hfull : (xs ++ [x]).length = (xs.length / c + 1) * c := by
      rw [hlen, ← succ_div_of_first hfirst]
      exact (Nat.div_mul_cancel (Nat.dvd_of_mod_eq_zero hfirst)).symm
    rw [if_pos hfirst, ← hlen]
    exact filled_of_full hbec.sound hcap' hpos hnode hcount' hput hfull (by omega)
  · have hsame : (xs ++ [x]).length / c = xs.length / c := by
      rw [hlen, succ_div_of_not_first hfirst]
    rw [if_neg hfirst]
    refine ⟨_, rfl, hbec.sound, hcap', ?_, ?_, ?_⟩
    · rw [hsame, hlen]
    · rw [hsame]
      exact hcount'
    · rw [hsame]
      exact hput

/-- The items lie in the list in the order in which they are pushed. -/
theorem Filled.pushAll (hp : Filled c base node xs p) (hc : 2 ≤ c) (hnode : node < base)
    (hids : ∀ id ∈ ids, id < 2 ^ 64) (hfits : base + xs.length + ids.length < 2 ^ 64) :
    ∃ q, PagePool.pushAll ids p = .ok () q ∧ Filled c base node (xs ++ ids) q := by
  induction ids generalizing xs p with
  | nil => exact ⟨p, rfl, by rwa [List.append_nil]⟩
  | cons id rest ih =>
    rw [List.length_cons] at hfits
    obtain ⟨q, hrun, hq⟩ := hp.pushTail hc hnode (hids id List.mem_cons_self) (by omega)
    obtain ⟨r, hrun', hr⟩ := ih hq (fun i hi => hids i (List.mem_cons_of_mem _ hi)) (by
      rw [List.length_append, List.length_singleton]
      omega)
    refine ⟨r, ?_, by rwa [List.append_assoc, List.singleton_append] at hr⟩
    rw [PagePool.pushAll, Action.bind_ok hrun, hrun']

end Filling

/-! ## Draining a list -/

section Draining

variable [PageView σ] {p : PagePool σ} {h : Nat}

/-- What is pushed onto a list: pages of the store other than the first one, onto nodes with two
slots or more, and not so many that a number overflows. -/
structure Load (c base node : Nat) (ids : List PageId) : Prop where
  two_le : 2 ≤ c
  node_lt : node < base
  range : ∀ id ∈ ids, 0 < id ∧ id < base
  fits : base + 2 * ids.length < 2 ^ 64

theorem Load.pos (hl : Load c base node ids) : 0 < c :=
  Nat.lt_of_lt_of_le Nat.zero_lt_two hl.two_le

/-- The head of a list that `h` items have left: those that may still leave lie in the nodes from
the head on. -/
structure Draining (c base node : Nat) (ids : List PageId) (h : Nat) (p : PagePool σ) : Prop where
  sound : PageView.Sound p.pages
  capacity_eq : FreeNode.capacity (PageStore.pageSize p.pages) = c
  slots_eq : p.free.capacity = c
  headPage_eq : p.free.headPage = nodeOf base node (h / c)
  headSeq_eq : p.free.headSeq = h
  watermark_eq : p.free.watermark = ids.length
  pageCount_le : base + ids.length / c ≤ PageStore.pageCount p.pages
  holds : Holds c base node ids h (ids.length / c) (page p.pages)

/-- The page is none of the nodes with items that may still leave. -/
def Spare (c base node : Nat) (ids : List PageId) (h id : Nat) : Prop :=
  ∀ j, h / c ≤ j → j ≤ ids.length / c → id ≠ nodeOf base node j

/-- The tail of a list that `h` items have left, behind which the used-up nodes entered: it is the
last node that was filled, or it has none of the items that may still leave. -/
structure HasTail (c base node : Nat) (ids : List PageId) (h : Nat) (p : PagePool σ) : Prop where
  tailSeq_eq : p.free.tailSeq = ids.length + h / c
  tailPage_lt : p.free.tailPage < PageStore.pageCount p.pages
  last : p.free.tailPage = nodeOf base node (ids.length / c) ∧
      ids.length % c ≤ p.free.tailSeq % c ∨ Spare c base node ids h p.free.tailPage

variable (hl : Load c base node ids)

/-- A list that was filled can be drained from its first item on. -/
theorem Filled.draining (hp : Filled c base node ids p) :
    Draining c base node ids 0 ⟨p.free.raiseWatermark, p.pages⟩ where
  sound := hp.sound
  capacity_eq := hp.capacity_eq
  slots_eq := by rw [hp.free_eq]; rfl
  headPage_eq := by
    rw [hp.free_eq, Nat.zero_div]
    rfl
  headSeq_eq := by rw [hp.free_eq]; rfl
  watermark_eq := by rw [hp.free_eq]; rfl
  pageCount_le := Nat.le_of_eq hp.pageCount_eq.symm
  holds := hp.holds

include hl in
/-- A list that was filled ends in its last node. -/
theorem Filled.hasTail (hp : Filled c base node ids p) :
    HasTail c base node ids 0 ⟨p.free.raiseWatermark, p.pages⟩ where
  tailSeq_eq := by
    rw [hp.free_eq, Nat.zero_div]
    rfl
  tailPage_lt := by
    rw [hp.free_eq, hp.pageCount_eq]
    exact nodeOf_lt hl.node_lt _
  last := by
    rw [hp.free_eq]
    exact .inl ⟨rfl, Nat.le_refl _⟩

variable [LawfulPageStore σ]

include hl in
/-- The oldest item is taken from the head, and with it the head node if it was the last one. -/
theorem Draining.pop (hp : Draining c base node ids h p) {id : PageId} (hid : ids[h]? = some id) :
    ∃ q, PagePool.pop p = .ok (some id, if (h + 1) % c = 0 then some p.free.headPage else none) q ∧
      Draining c base node ids (h + 1) q ∧ q.free.tailPage = p.free.tailPage ∧
      q.free.tailSeq = p.free.tailSeq ∧
      PageStore.pageCount q.pages = PageStore.pageCount p.pages := by
  have hlt := (List.getElem?_eq_some_iff.mp hid).1
  have hfits := hl.fits
  have hdiv : h / c ≤ ids.length / c := Nat.div_le_div_right (Nat.le_of_lt hlt)
  have hhead : p.free.headPage < PageStore.pageCount p.pages := by
    rw [hp.headPage_eq]
    exact Nat.lt_of_lt_of_le (nodeOf_lt hl.node_lt _)
      (Nat.le_trans (Nat.add_le_add_left hdiv base) hp.pageCount_le)
  obtain ⟨t, hrun, hbec, -⟩ := LawfulPageStore.read_ok hp.sound hhead
  have hslot := hp.holds.slot_eq h id (Nat.le_refl _) hid
  have hnull : id ≠ PageId.null := Nat.ne_of_gt (hl.range id (List.mem_of_getElem? hid)).1
  have hne : p.free.headSeq ≠ p.free.watermark := by
    rw [hp.headSeq_eq, hp.watermark_eq]
    exact Nat.ne_of_lt hlt
  have hnext : nextSeq h = h + 1 := nextSeq_of_lt (by omega)
  have hholds := hp.holds.mono (Nat.le_succ h)
  rw [← hbec.page_eq] at hholds
  have hcap : FreeNode.capacity (PageStore.pageSize t) = c := by
    rw [hbec.pageSize_eq, hp.capacity_eq]
  have hcount : base + ids.length / c ≤ PageStore.pageCount t := by
    rw [hbec.pageCount_eq]
    exact hp.pageCount_le
  rw [PagePool.pop, Action.get_bind, if_neg hne, onPages_bind_ok hrun]
  simp only [FreeList.index, hp.slots_eq, hp.headSeq_eq, hp.headPage_eq, hslot, hnext]
  rw [if_neg hnull]
  by_cases hlast : (h + 1) % c = 0
  · have hsucc : (h + 1) / c = h / c + 1 := succ_div_of_first hlast
    have hlink := hp.holds.link_eq (h / c) (Nat.le_refl _) (by
      have hle : (h + 1) / c ≤ ids.length / c := Nat.div_le_div_right hlt
      omega)
    have hpos : FreeNode.link (page p.pages (nodeOf base node (h / c))) ≠ PageId.null := by
      rw [hlink]
      have hnode := hl.node_lt
      exact Nat.ne_of_gt (Nat.lt_of_lt_of_le (Nat.zero_lt_of_lt hnode) (Nat.le_add_right _ _))
    rw [if_neg (fun hne => hne hlast), if_neg hpos, if_pos hlast, updateFree_bind, hlink]
    refine ⟨_, rfl, ⟨hbec.sound, hcap, hp.slots_eq, ?_, ?_, hp.watermark_eq, hcount, hholds⟩, rfl,
      rfl, hbec.pageCount_eq⟩
    · rw [hsucc]
    · exact (congrArg nextSeq hp.headSeq_eq).trans hnext
  · rw [if_pos hlast, if_neg hlast, updateFree_bind]
    refine ⟨_, rfl, ⟨hbec.sound, hcap, hp.slots_eq, ?_, ?_, hp.watermark_eq, hcount, hholds⟩, rfl,
      rfl, hbec.pageCount_eq⟩
    · rw [succ_div_of_not_first hlast]
      exact hp.headPage_eq
    · exact (congrArg nextSeq hp.headSeq_eq).trans hnext

omit [LawfulPageStore σ] in
/-- Other pages change, and the tail moves on. -/
theorem Draining.change (hp : Draining c base node ids h p) {t : σ} {count : Nat} {id : PageId}
    {new : Bytes} (hcount : PageStore.pageCount p.pages ≤ count)
    (hbec : PageView.Becomes p.pages t count (Function.update (page p.pages) id new))
    (hspares : Spares c base node ids h (ids.length / c) id (page p.pages id) new)
    (tailPage tailSeq : Nat) :
    Draining c base node ids h
      ⟨{ p.free with tailPage := tailPage, tailSeq := tailSeq }, t⟩ where
  sound := hbec.sound
  capacity_eq := by rw [hbec.pageSize_eq, hp.capacity_eq]
  slots_eq := hp.slots_eq
  headPage_eq := hp.headPage_eq
  headSeq_eq := hp.headSeq_eq
  watermark_eq := hp.watermark_eq
  pageCount_le := by
    rw [hbec.pageCount_eq]
    exact Nat.le_trans hp.pageCount_le hcount
  holds := by
    rw [hbec.page_eq]
    exact hp.holds.update hspares

include hl in
/-- A spare page becomes the last node, when the node before it is full or spare. -/
theorem Draining.linkNode (hp : Draining c base node ids h p) {next : Nat}
    (htail : p.free.tailPage < PageStore.pageCount p.pages)
    (hlast : p.free.tailPage = nodeOf base node (ids.length / c) ∨
      Spare c base node ids h p.free.tailPage)
    (hnext : next < PageStore.pageCount p.pages) (hspare : Spare c base node ids h next)
    (hseq : p.free.tailSeq = ids.length + h / c) :
    ∃ q, PagePool.linkNode next none p = .ok () q ∧ Draining c base node ids h q ∧
      HasTail c base node ids h q := by
  have hpos := hl.pos
  obtain ⟨t, hrun, hbec⟩ := linkNode_none hp.sound hp.capacity_eq hpos htail hnext
  have hbec := hbec _ rfl
  have hlinked : Holds c base node ids h (ids.length / c) (Function.update (page p.pages)
      p.free.tailPage (FreeNode.setLink next (page p.pages p.free.tailPage))) := by
    refine hp.holds.update fun j hj hjle hid => ?_
    rcases hlast with hlast | hlast
    · rw [nodeOf_inj hl.node_lt (hid.symm.trans hlast)]
      refine ⟨Nat.le_refl _, fun i _ _ => FreeNode.slot_setLink ?_⟩
      rw [capacity_length_page hp.sound hp.capacity_eq htail]
      exact Nat.mod_lt _ hpos
    · exact absurd hid (hlast j hj hjle)
  refine ⟨_, hrun, ⟨hbec.sound, ?_, hp.slots_eq, hp.headPage_eq, hp.headSeq_eq, hp.watermark_eq,
    ?_, ?_⟩, ⟨hseq, ?_, .inr hspare⟩⟩
  · rw [hbec.pageSize_eq, hp.capacity_eq]
  · rw [hbec.pageCount_eq]
    exact hp.pageCount_le
  · rw [hbec.page_eq]
    exact hlinked.update fun j hj hjle hid => absurd hid (hspare j hj hjle)
  · rw [hbec.pageCount_eq]
    exact hnext

/-- How many items have left after the one before item `h`: that one, too, if it becomes a node. -/
def upTo (c m h : Nat) : Nat :=
  if h < m ∧ BecomesNode c m h then h + 1 else h

include hl in
/-- A full last node is followed by the oldest item, if there is one and it is the first one of its
node. -/
theorem Draining.addItem (hp : Draining c base node ids h p) (hpos : 0 < h)
    (hfirst : h % c = 0) (htail : p.free.tailPage < PageStore.pageCount p.pages)
    (hlast : p.free.tailPage = nodeOf base node (ids.length / c) ∨
      Spare c base node ids h p.free.tailPage)
    (hseq : p.free.tailSeq = ids.length + h / c) (hlt : h < ids.length) :
    ∃ q, PagePool.addNode p = .ok () q ∧ Draining c base node ids (h + 1) q ∧
      HasTail c base node ids (h + 1) q := by
  -- the item is not the last one of its node, so no other node is used up by it
  have hsucc : ¬ (h + 1) % c = 0 := not_first_succ hl.two_le hfirst
  have hsame : (h + 1) / c = h / c := succ_div_of_not_first hsucc
  have hid := List.getElem?_eq_getElem hlt
  obtain ⟨r, hrun, hr, htail', hseq', hcount⟩ := hp.pop hl hid
  have hrange := hl.range _ (List.mem_of_getElem? hid)
  have hspare : ∀ {i}, Spare c base node ids h i → Spare c base node ids (h + 1) i := by
    intro i hi j hj
    rw [hsame] at hj
    exact hi j hj
  have hnext : ids[h] < PageStore.pageCount r.pages := by
    rw [hcount]
    exact Nat.lt_of_lt_of_le hrange.2 (Nat.le_trans (Nat.le_add_right _ _) hp.pageCount_le)
  have hnew : Spare c base node ids (h + 1) ids[h] := by
    intro j hj _
    -- the first node is used up, and the others lie behind the pages of the store
    have hone : 1 ≤ j := by
      have hdvd : c ∣ h := Nat.dvd_of_mod_eq_zero hfirst
      have hge : 1 ≤ h / c := (Nat.one_le_div_iff hl.pos).mpr (Nat.le_of_dvd hpos hdvd)
      omega
    obtain ⟨k, rfl⟩ := Nat.exists_eq_add_of_le' hone
    exact Nat.ne_of_lt (Nat.lt_of_lt_of_le hrange.2 (Nat.le_add_right _ _))
  obtain ⟨q, hrun', hq, hqtail⟩ := hr.linkNode hl (by rw [htail', hcount]; exact htail)
    (by rw [htail']; exact hlast.imp_right hspare) hnext hnew (by rw [hseq', hsame]; exact hseq)
  refine ⟨q, ?_, hq, hqtail⟩
  rw [if_neg hsucc] at hrun
  rw [addNode_eq, Action.bind_ok hrun]
  exact hrun'

include hl in
/-- A full last node is followed by a new page, if no item may leave any more. -/
theorem Draining.addPage (hp : Draining c base node ids ids.length p)
    (htail : p.free.tailPage < PageStore.pageCount p.pages)
    (hlast : p.free.tailPage = nodeOf base node (ids.length / c) ∨
      Spare c base node ids ids.length p.free.tailPage)
    (hseq : p.free.tailSeq = ids.length + ids.length / c) :
    ∃ q, PagePool.addNode p = .ok () q ∧ Draining c base node ids ids.length q ∧
      HasTail c base node ids ids.length q := by
  have hnone : p.free.headSeq = p.free.watermark := hp.headSeq_eq.trans hp.watermark_eq.symm
  obtain ⟨t, hrun, hbec⟩ := appendZeros_run hp.sound
  have hspare : Spare c base node ids ids.length (PageStore.pageCount p.pages) := by
    intro j _ hj heq
    have hnode := nodeOf_lt hl.node_lt j
    have hcountle := hp.pageCount_le
    omega
  have ht : Draining c base node ids ids.length ⟨p.free, t⟩ :=
    hp.change (Nat.le_succ _) hbec (fun j hj hjle hid => absurd hid (hspare j hj hjle)) _ _
  have hnext : PageStore.pageCount p.pages < PageStore.pageCount t := by
    rw [hbec.pageCount_eq]
    exact Nat.lt_succ_self _
  obtain ⟨q, hrun', hq, hqtail⟩ := ht.linkNode hl (Nat.lt_trans htail hnext) hlast hnext hspare
    hseq
  refine ⟨q, ?_, hq, hqtail⟩
  rw [addNode_eq, Action.bind_ok (pop_none hnone)]
  show (appendZeros >>= fun next => PagePool.linkNode next none) p = _
  rw [Action.bind_ok hrun]
  exact hrun'

include hl in
/-- A full last node is followed by the oldest item, or by a new page if none is left. -/
theorem Draining.addNode (hp : Draining c base node ids h p) (hpos : 0 < h)
    (hfirst : h % c = 0) (htail : p.free.tailPage < PageStore.pageCount p.pages)
    (hlast : p.free.tailPage = nodeOf base node (ids.length / c) ∨
      Spare c base node ids h p.free.tailPage)
    (hseq : p.free.tailSeq = ids.length + h / c) (hfull : (ids.length + h / c) % c = 0)
    (hle : h ≤ ids.length) :
    ∃ q, PagePool.addNode p = .ok () q ∧
      Draining c base node ids (upTo c ids.length h) q ∧
      HasTail c base node ids (upTo c ids.length h) q := by
  rcases Nat.lt_or_eq_of_le hle with hlt | rfl
  · have hupTo : upTo c ids.length h = h + 1 := if_pos ⟨hlt, hpos, hfirst, hfull⟩
    rw [hupTo]
    exact hp.addItem hl hpos hfirst htail hlast hseq hlt
  · have hupTo : upTo c ids.length ids.length = ids.length :=
      if_neg fun h => Nat.lt_irrefl _ h.1
    rw [hupTo]
    exact hp.addPage hl htail hlast hseq

include hl in
/-- A used-up node enters at the tail. -/
theorem Draining.pushTail (hp : Draining c base node ids h p) (hpos : 0 < h) (hfirst : h % c = 0)
    (hle : h ≤ ids.length) (htail : p.free.tailPage < PageStore.pageCount p.pages)
    (hlast : p.free.tailPage = nodeOf base node (ids.length / c) ∧
      ids.length % c ≤ p.free.tailSeq % c ∨ Spare c base node ids h p.free.tailPage)
    (hseq : p.free.tailSeq + 1 = ids.length + h / c) (used : PageId) :
    ∃ q, PagePool.pushTail used p = .ok () q ∧
      Draining c base node ids (upTo c ids.length h) q ∧
      HasTail c base node ids (upTo c ids.length h) q := by
  have hc := hl.pos
  have hdiv : h / c ≤ h := Nat.div_le_self _ _
  have hfits := hl.fits
  have hnext : nextSeq p.free.tailSeq = p.free.tailSeq + 1 := nextSeq_of_lt (by omega)
  obtain ⟨t, hrun, hbec⟩ := setSlot_ok used hp.sound hp.capacity_eq htail
    (Nat.mod_lt p.free.tailSeq hc)
  have ht : Draining c base node ids h
      ⟨{ p.free with tailSeq := p.free.tailSeq + 1 }, t⟩ := by
    refine hp.change (Nat.le_refl _) hbec ?_ _ _
    intro j hj hjle hid
    rcases hlast with ⟨hlast, hroom⟩ | hlast
    · obtain rfl := nodeOf_inj hl.node_lt (hid.symm.trans hlast)
      refine ⟨Nat.le_refl _, fun i hi hdivi => FreeNode.slot_setSlot_of_ne ?_ ?_⟩
      · have hieq := Nat.div_add_mod i c
        have hmeq := Nat.div_add_mod ids.length c
        rw [hdivi] at hieq
        omega
      · rw [capacity_length_page hp.sound hp.capacity_eq htail]
        exact Nat.mod_lt _ hc
    · exact absurd hid (hlast j hj hjle)
  have htail' : p.free.tailPage < PageStore.pageCount t := by
    rw [hbec.pageCount_eq]
    exact htail
  rw [PagePool.pushTail, Action.get_bind]
  simp only [FreeList.index, hp.slots_eq]
  rw [onPages_bind_ok hrun, updateFree_bind]
  simp only [hnext]
  by_cases hfull : (p.free.tailSeq + 1) % c = 0
  · rw [if_pos hfull]
    exact ht.addNode hl hpos hfirst htail' (hlast.imp_left And.left) hseq (hseq ▸ hfull) hle
  · have hupTo : upTo c ids.length h = h :=
      if_neg fun h => hfull (by rw [hseq]; exact h.2.2.2)
    rw [if_neg hfull, hupTo]
    refine ⟨_, rfl, ht, hseq, htail', hlast.imp_left fun hlast => ⟨hlast.1, ?_⟩⟩
    show ids.length % c ≤ (p.free.tailSeq + 1) % c
    rw [succ_mod_of_not_first hl.two_le hfull]
    exact Nat.le_succ_of_le hlast.2

include hl in
/-- **One pop** hands out the oldest item. Behind it one more item is gone if it has become the
last node. -/
theorem Draining.popHead (hp : Draining c base node ids h p) (htail : HasTail c base node ids h p)
    {id : PageId} (hid : ids[h]? = some id) :
    ∃ q, PagePool.popHead p = .ok (some id) q ∧
      Draining c base node ids (upTo c ids.length (h + 1)) q ∧
      HasTail c base node ids (upTo c ids.length (h + 1)) q := by
  have hlt := (List.getElem?_eq_some_iff.mp hid).1
  obtain ⟨r, hrun, hr, htail', hseq', hcount⟩ := hp.pop hl hid
  have htaillt : r.free.tailPage < PageStore.pageCount r.pages := by
    rw [htail', hcount]
    exact htail.tailPage_lt
  have hlast : r.free.tailPage = nodeOf base node (ids.length / c) ∧
      ids.length % c ≤ r.free.tailSeq % c ∨ Spare c base node ids (h + 1) r.free.tailPage := by
    rw [htail', hseq']
    exact htail.last.imp_right fun hspare j hj =>
      hspare j (Nat.le_trans (Nat.div_le_div_right (Nat.le_succ h)) hj)
  rw [PagePool.popHead, Action.bind_ok hrun]
  by_cases hfirst : (h + 1) % c = 0
  · have hsucc : (h + 1) / c = h / c + 1 := succ_div_of_first hfirst
    obtain ⟨q, hrun', hq, hqtail⟩ := hr.pushTail hl (Nat.succ_pos h) hfirst hlt htaillt hlast
      (by rw [hseq', htail.tailSeq_eq, hsucc]; rfl) p.free.headPage
    refine ⟨q, ?_, hq, hqtail⟩
    simp only [hfirst, if_true]
    rw [Action.bind_ok hrun']
    rfl
  · have hsame : (h + 1) / c = h / c := succ_div_of_not_first hfirst
    have hupTo : upTo c ids.length (h + 1) = h + 1 := if_neg fun h => hfirst h.2.2.1
    rw [hupTo]
    refine ⟨r, ?_, hr, ⟨?_, htaillt, hlast⟩⟩
    · simp only [hfirst, if_false]
      rfl
    · rw [hseq', htail.tailSeq_eq, hsame]

/-! ### All pops -/

/-- Where a drain stands, the next item does not become a node. -/
theorem not_becomesNode_upTo {m : Nat} (hc : 2 ≤ c) (hlt : upTo c m h < m) :
    ¬ BecomesNode c m (upTo c m h) := by
  unfold upTo at *
  split at hlt
  · next hbecomes =>
    rw [if_pos hbecomes]
    exact fun hnext => not_first_succ hc hbecomes.2.2.1 hnext.2.1
  · next hnot =>
    rw [if_neg hnot]
    exact fun hbecomes => hnot ⟨hlt, hbecomes⟩

/-- What becomes a node is passed over. -/
theorem handedOut_upTo (c h : Nat) (ids : List PageId) :
    handedOut c ids.length h (ids.drop h) =
      handedOut c ids.length (upTo c ids.length h) (ids.drop (upTo c ids.length h)) := by
  unfold upTo
  split
  · next hbecomes =>
    rw [List.drop_eq_getElem_cons hbecomes.1, handedOut, if_pos hbecomes.2]
  · rfl

omit [LawfulPageStore σ] [PageView σ] in
/-- At the watermark there is nothing to pop. -/
theorem popMany_none (hhead : p.free.headSeq = p.free.watermark) (n : Nat) :
    popMany n p = .ok (List.replicate n none) p := by
  induction n with
  | zero => rfl
  | succ n ih =>
    rw [popMany, Action.bind_ok (popHead_none hhead), Action.bind_ok ih]
    rfl

include hl in
/-- What pops hand out: the rest of the items apart from those that become nodes, and then
nothing. -/
theorem Draining.popMany (hp : Draining c base node ids h p) (htail : HasTail c base node ids h p)
    (hle : h ≤ ids.length) (hready : h < ids.length → ¬ BecomesNode c ids.length h) (n : Nat) :
    ∃ q, PagePool.popMany n p = .ok (((handedOut c ids.length h (ids.drop h)).map some ++
      List.replicate n none).take n) q := by
  -- each pop hands out the first item of the rest
  induction n generalizing h p with
  | zero => exact ⟨p, rfl⟩
  | succ n ih =>
    rcases Nat.lt_or_eq_of_le hle with hlt | rfl
    · have hid := List.getElem?_eq_getElem hlt
      obtain ⟨q, hrun, hq, hqtail⟩ := hp.popHead hl htail hid
      have hupTo : upTo c ids.length (h + 1) ≤ ids.length := by
        unfold upTo
        split <;> omega
      obtain ⟨r, hrun'⟩ := ih hq hqtail hupTo (not_becomesNode_upTo hl.two_le)
      refine ⟨r, ?_⟩
      have hrest : handedOut c ids.length h (ids.drop h) =
          ids[h] :: handedOut c ids.length (upTo c ids.length (h + 1))
            (ids.drop (upTo c ids.length (h + 1))) := by
        rw [List.drop_eq_getElem_cons hlt, handedOut, if_neg (hready hlt), handedOut_upTo]
      -- the pops that are left do not see the last `none`
      have htake : ∀ xs : List (Option PageId), (xs ++ List.replicate n none ++ [none]).take n =
          (xs ++ List.replicate n none).take n := by
        intro xs
        refine List.take_append_of_le_length ?_
        rw [List.length_append, List.length_replicate]
        exact Nat.le_add_left _ _
      rw [PagePool.popMany, Action.bind_ok hrun, Action.bind_ok hrun', hrest, List.map_cons,
        List.cons_append, List.take_succ_cons, List.replicate_succ', ← List.append_assoc, htake]
      rfl
    · refine ⟨p, ?_⟩
      rw [popMany_none (hp.headSeq_eq.trans hp.watermark_eq.symm), List.drop_length]
      rw [handedOut, List.map_nil, List.nil_append, List.take_of_length_le]
      rw [List.length_replicate]

end Draining

/-! ## The drain -/

/-- No more is handed out than was pushed. -/
theorem length_handedOut_le (c m i : Nat) (ids : List PageId) :
    (handedOut c m i ids).length ≤ ids.length := by
  induction ids generalizing i with
  | nil => exact Nat.le_refl _
  | cons id rest ih =>
    rw [handedOut]
    split
    · exact Nat.le_succ_of_le (ih _)
    · exact Nat.succ_le_succ (ih _)

/-- All that was pushed is handed out exactly if none of it becomes a node. -/
theorem handedOut_eq_self_iff {c m i : Nat} :
    handedOut c m i ids = ids ↔ ∀ j, i ≤ j → j < i + ids.length → ¬ BecomesNode c m j := by
  induction ids generalizing i with
  | nil =>
    refine iff_of_true rfl ?_
    intro j hj hlt
    exact absurd hlt (Nat.not_lt.mpr hj)
  | cons id rest ih =>
    rw [handedOut]
    split
    · next hbecomes =>
      refine iff_of_false ?_ fun hnone => hnone i (Nat.le_refl _) (by simp) hbecomes
      intro heq
      have hlen := length_handedOut_le c m (i + 1) rest
      rw [heq, List.length_cons] at hlen
      omega
    · next hnot =>
      rw [List.cons.injEq, and_iff_right rfl, ih, List.length_cons]
      constructor
      · intro hrest j hj hlt
        rcases Nat.eq_or_lt_of_le hj with rfl | hj
        · exact hnot
        · exact hrest j hj (by omega)
      · intro hall j hj hlt
        exact hall j (by omega) (by omega)

/-- What is handed out comes first, and after it the list answers that it is empty. -/
theorem take_handedOut (c : Nat) (ids : List PageId) :
    ((handedOut c ids.length 0 ids).map some ++ List.replicate ids.length none).take ids.length =
      drained c ids := by
  have hlen := length_handedOut_le c ids.length 0 ids
  rw [drained, List.take_append, List.length_map, List.take_of_length_le, List.take_replicate,
    Nat.min_eq_left (Nat.sub_le _ _)]
  rwa [List.length_map]

/-- Draining answers the items that were pushed exactly if all of them are handed out. -/
theorem drained_eq_iff :
    drained c ids = ids.map some ↔ handedOut c ids.length 0 ids = ids := by
  unfold drained
  constructor
  · intro heq
    have hpages := congrArg List.reduceOption heq
    have hnone : List.reduceOption (List.replicate (ids.length -
        (handedOut c ids.length 0 ids).length) none) = ([] : List PageId) :=
      List.filterMap_replicate_of_none rfl
    have hsome (l : List PageId) : (l.map some).reduceOption = l := by
      simp only [List.reduceOption, List.filterMap_map, Function.id_comp, List.filterMap_some]
    rwa [List.reduceOption_append, hnone, List.append_nil, hsome, hsome] at hpages
  · intro heq
    rw [heq, Nat.sub_self, List.replicate_zero, List.append_nil]

/-- No item becomes a node as long as there are not too many for the room that the last node
has. -/
theorem forall_not_becomesNode_iff {c m : Nat} (hc : 2 ≤ c) :
    (∀ j, 0 ≤ j → j < 0 + m → ¬ BecomesNode c m j) ↔ m ≤ c * (c - m % c) := by
  have hpos : 0 < c := by omega
  have hmod := Nat.mod_lt m hpos
  constructor
  · intro hnone
    by_contra hlt
    refine hnone (c * (c - m % c)) (Nat.zero_le _) (by omega) ⟨?_, Nat.mul_mod_right _ _, ?_⟩
    · exact Nat.mul_pos hpos (by omega)
    · rw [Nat.mul_div_cancel_left _ hpos]
      refine Nat.mod_eq_zero_of_dvd ⟨m / c + 1, ?_⟩
      have hsplit := Nat.div_add_mod m c
      rw [Nat.mul_succ]
      omega
  · rintro hle j - hj ⟨hjpos, hjmod, hfull⟩
    obtain ⟨k, rfl⟩ := Nat.dvd_of_mod_eq_zero hjmod
    rw [Nat.mul_div_cancel_left _ hpos] at hfull
    have hk : 0 < k := Nat.pos_of_mul_pos_left hjpos
    -- the used-up nodes are at least as many as the room that there was
    have hroom : c - m % c ≤ k := by
      rw [Nat.add_mod, ← Nat.add_mod_mod, Nat.mod_mod] at hfull
      have hdvd : c ∣ m % c + k := Nat.dvd_of_mod_eq_zero (by rw [← hfull, Nat.add_mod_mod])
      have hge := Nat.le_of_dvd (Nat.add_pos_right _ hk) hdvd
      omega
    have hmul := Nat.mul_le_mul_left c hroom
    omega

/-- **Draining a free list.** However many pages of the store are pushed onto a new list, once
all of them may leave, as many pops hand them out in the order of pushing, apart from those that
become nodes of the list; the last pops hand out nothing instead. All pages are handed out just
if the used-up nodes do not fill the last node before. -/
theorem drain [PageView σ] [LawfulPageStore σ] {s : σ} (hs : PageView.Sound s)
    (hcap : FreeNode.capacity (PageStore.pageSize s) = c) (htwo : 2 ≤ c)
    (hnode : node < PageStore.pageCount s)
    (hids : ∀ id ∈ ids, 0 < id ∧ id < PageStore.pageCount s)
    (hfits : PageStore.pageCount s + 2 * ids.length < 2 ^ 64) :
    ∃ q, pushThenPop ids ⟨FreeList.new node (PageStore.pageSize s), s⟩ =
        .ok (drained c ids) q ∧
      (drained c ids = ids.map some ↔ ids.length ≤ c * (c - ids.length % c)) := by
  have hl : Load c (PageStore.pageCount s) node ids := ⟨htwo, hnode, hids, hfits⟩
  have hnew := filled_new hs node
  rw [hcap] at hnew
  obtain ⟨p, hrun, hp⟩ := hnew.pushAll htwo hnode
    (fun id hid => Nat.lt_trans (hids id hid).2 (Nat.lt_of_le_of_lt (Nat.le_add_right _ _) hfits))
    (by rw [List.length_nil]; omega)
  rw [List.nil_append] at hp
  obtain ⟨q, hrun'⟩ := hp.draining.popMany hl (hp.hasTail hl) (Nat.zero_le _)
    (fun _ hbecomes => Nat.lt_irrefl 0 hbecomes.1) ids.length
  rw [List.drop_zero, take_handedOut] at hrun'
  refine ⟨q, ?_, drained_eq_iff.trans ?_⟩
  · rw [pushThenPop, Action.bind_ok hrun, updateFree_bind]
    exact hrun'
  · exact handedOut_eq_self_iff.trans (forall_not_becomesNode_iff htwo)

/-- Three pages on nodes of two slots: the third one becomes a node. -/
theorem drain_of_three : ∃ q,
    pushThenPop [2, 3, 4]
        ⟨FreeList.new 1 24, (⟨24, List.replicate 5 (Bytes.zeros 24)⟩ : PageArray)⟩ =
      .ok [some 2, some 3, none] q := by
  have hs : PageView.Sound (⟨24, List.replicate 5 (Bytes.zeros 24)⟩ : PageArray) := by
    intro b hb
    rw [(List.mem_replicate.mp hb).2]
    rfl
  obtain ⟨q, hrun, -⟩ := drain hs (rfl : FreeNode.capacity 24 = 2) (by decide)
    (by decide : 1 < 5) (by decide : ∀ id ∈ [2, 3, 4], 0 < id ∧ id < 5) (by decide)
  exact ⟨q, hrun⟩

/-- **A drain can keep pages back**: three pages do not all come out of nodes of two slots. The
null page, and a page that has become a node of the list in the meantime, even damage the list. -/
theorem drain_keeps_page :
    ((pushThenPop [2, 3, 4]).outcome
        ⟨FreeList.new 1 24, (⟨24, List.replicate 5 (Bytes.zeros 24)⟩ : PageArray)⟩).1 =
      .ok [some 2, some 3, none] ∧
    [some 2, some 3, none] ≠ [2, 3, 4].map some ∧
    ((pushThenPop [0]).outcome
        ⟨FreeList.new 1 24, (⟨24, List.replicate 5 (Bytes.zeros 24)⟩ : PageArray)⟩).1 =
      .error (.damaged (.emptySlot 1 0)) ∧
    ((pushThenPop [2, 3, 6, 4, 5]).outcome
        ⟨FreeList.new 1 24, (⟨24, List.replicate 6 (Bytes.zeros 24)⟩ : PageArray)⟩).1 =
      .error (.damaged (.noSuccessor 6)) := by
  decide +kernel

end PagePool

end PagedTables
