/-
# Chains of snapshot pages

Writing payloads into pages links the pages to a chain, and following a chain gives back the
payloads and the pages.

* `Snapshot.Chain` : pages that hold payloads and lead to each other;
* `Snapshot.writeChain_ok`, `Snapshot.followChain_ok` : writing and reading a chain.
-/
import PagedTables.Proofs.Bytes
import PagedTables.Proofs.Pages.Lawful
import PagedTables.Page.Snapshot

namespace PagedTables

namespace Snapshot

open PageView (page)

/-! ## One page -/

section Page

variable {next : Nat} {data b : Bytes}

/-- A page of the chain stays as long as it is. -/
theorem length_writePage (h : headerSize + data.length ≤ b.length) :
    (writePage next data b).length = b.length := by
  apply Bytes.length_overwrite
  simp only [List.length_append, PageId.toBytes, Bytes.length_ofNatLE, PageId.width]
  simp only [headerSize] at h
  omega

/-- The part of a page that writing replaces, as it is read back. -/
theorem slice_writePage {pos n : Nat} (h : pos + n ≤ headerSize + data.length) :
    (writePage next data b).slice pos n =
      (PageId.toBytes next ++ (Bytes.ofNatLE 4 data.length ++ data)).slice pos n := by
  have hpatch : writePage next data b =
      b.overwrite 0 (PageId.toBytes next ++ (Bytes.ofNatLE 4 data.length ++ data)) := by
    rw [writePage, List.append_assoc]
  rw [hpatch]
  generalize hp : PageId.toBytes next ++ (Bytes.ofNatLE 4 data.length ++ data) = patch
  have hlen : patch.length = headerSize + data.length := by
    rw [← hp, List.length_append, List.length_append, PageId.length_toBytes, Bytes.length_ofNatLE,
      headerSize]
    omega
  have hslice : (b.overwrite 0 patch).slice 0 patch.length = patch := Bytes.slice_overwrite
  have hsub : ((b.overwrite 0 patch).slice 0 patch.length).slice pos n =
      (b.overwrite 0 patch).slice (0 + pos) n :=
    Bytes.slice_slice (by rw [hlen]; exact h)
  rw [hslice, Nat.zero_add] at hsub
  exact hsub.symm

theorem link_writePage (hnext : next < 2 ^ 64) : link (writePage next data b) = next := by
  rw [link, slice_writePage (by rw [headerSize]; omega), Bytes.slice, List.drop_zero,
    List.take_left' (PageId.length_toBytes next), PageId.ofBytes_toBytes hnext]

theorem payloadSize_writePage (hdata : data.length < 2 ^ 32) :
    payloadSize (writePage next data b) = data.length := by
  rw [payloadSize, slice_writePage (by rw [headerSize]; omega), Bytes.slice,
    List.drop_left' (PageId.length_toBytes next), List.take_left' (Bytes.length_ofNatLE 4 _),
    Bytes.toNatLE_ofNatLE]
  exact Nat.mod_eq_of_lt hdata

/-- The payload of a page is read back. -/
theorem payload_writePage (hdata : data.length < 2 ^ 32) :
    payload (writePage next data b) = data := by
  have hlen : (PageId.toBytes next ++ Bytes.ofNatLE 4 data.length).length = headerSize := by
    rw [List.length_append, PageId.length_toBytes, Bytes.length_ofNatLE, headerSize]
  rw [payload, payloadSize_writePage hdata, slice_writePage (Nat.le_refl _), Bytes.slice,
    ← List.append_assoc, List.drop_left' hlen, List.take_length]

end Page

/-! ## Chains -/

/-- Pages that hold payloads, each linked to the next one. -/
inductive Chain (pages : PageId → Bytes) (capacity : Nat) : List PageId → List Bytes → Prop
  | nil : Chain pages capacity [] []
  | cons {id : PageId} {ids : List PageId} {rest : List Bytes} :
      link (pages id) = ids.headD PageId.null → payloadSize (pages id) ≤ capacity →
      Chain pages capacity ids rest →
      Chain pages capacity (id :: ids) (payload (pages id) :: rest)

/-- A chain does not depend on any other pages. -/
theorem Chain.of_pages {pages pages' : PageId → Bytes} {capacity : Nat} {ids : List PageId}
    {payloads : List Bytes} (hc : Chain pages capacity ids payloads)
    (h : ∀ id ∈ ids, pages' id = pages id) : Chain pages' capacity ids payloads := by
  induction hc with
  | nil => exact .nil
  | cons hlink hsize _ ih =>
    have hhead := h _ List.mem_cons_self
    rw [← hhead]
    exact .cons (by rw [hhead]; exact hlink) (by rw [hhead]; exact hsize)
      (ih fun id hid => h id (List.mem_cons_of_mem _ hid))

variable {σ : Type} [PageStore σ]

/-- One step along a chain. -/
theorem followChain_succ {capacity : Nat} {id : PageId} (fuel : Nat) (hid : id ≠ PageId.null) :
    (followChain capacity (fuel + 1) id : Action StoreError σ (Bytes × List PageId)) = (do
      let page ← PageStore.read id
      if capacity < payloadSize page then
        throw (.damaged (.oversizedPayload id (payloadSize page)))
      else
        let (stream, ids) ← followChain capacity fuel (link page)
        return (payload page ++ stream, id :: ids)) := by
  rw [followChain, if_neg hid]

/-- A chain has a payload for each page. -/
theorem Chain.length_eq {pages : PageId → Bytes} {capacity : Nat} {ids : List PageId}
    {payloads : List Bytes} (hc : Chain pages capacity ids payloads) :
    ids.length = payloads.length := by
  induction hc with
  | nil => rfl
  | cons _ _ _ ih => rw [List.length_cons, List.length_cons, ih]

variable [PageView σ] [LawfulPageStore σ] {s : σ}

/-- Following a chain gives its payloads and its pages. -/
theorem followChain_ok {capacity fuel : Nat} {ids : List PageId} {payloads : List Bytes}
    (hs : PageView.Sound s) (hc : Chain (page s) capacity ids payloads)
    (hids : ∀ id ∈ ids, id ≠ PageId.null ∧ id < PageStore.pageCount s)
    (hfuel : ids.length ≤ fuel) :
    ∃ t, followChain capacity fuel (ids.headD PageId.null) s = .ok (payloads.flatten, ids) t ∧
      PageView.Becomes s t (PageStore.pageCount s) (page s) ∧
      (PageView.Clean s → PageView.Clean t) := by
  induction ids generalizing s fuel payloads with
  | nil =>
    cases hc
    refine ⟨s, ?_, ⟨hs, rfl, rfl, rfl, rfl⟩, fun hclean => hclean⟩
    unfold followChain
    rw [List.headD_nil, if_pos rfl]
    rfl
  | cons id ids ih =>
    obtain ⟨hnull, hlt⟩ := hids id List.mem_cons_self
    cases hc with
    | cons hlink hsize hrest =>
      cases fuel with
      | zero => cases hfuel
      | succ fuel =>
        obtain ⟨t, hread, hbec, hclean⟩ := LawfulPageStore.read_ok hs hlt
        obtain ⟨u, hfollow, hbec', hclean'⟩ := ih hbec.sound
          (by rw [hbec.page_eq]; exact hrest)
          (by
            intro id' hid'
            rw [hbec.pageCount_eq]
            exact hids id' (List.mem_cons_of_mem _ hid'))
          (Nat.le_of_succ_le_succ hfuel)
        refine ⟨u, ?_, ⟨hbec'.sound, hbec'.pageSize_eq.trans hbec.pageSize_eq,
          hbec'.pageCount_eq.trans hbec.pageCount_eq, hbec'.page_eq.trans hbec.page_eq,
          hbec'.rest_eq.trans hbec.rest_eq⟩, fun h => hclean' (hclean h)⟩
        rw [List.headD_cons, followChain_succ fuel hnull, Action.bind_ok hread,
          if_neg (Nat.not_lt.mpr hsize), hlink, Action.bind_ok hfollow]
        rfl

/-- Writing payloads into pages makes a chain of them, and changes no other page. -/
theorem writeChain_ok {ids : List PageId} {payloads : List Bytes} (hs : PageView.Sound s)
    (hids : ∀ id ∈ ids, id < PageStore.pageCount s) (hnodup : ids.Nodup)
    (hlen : ids.length = payloads.length) (hcount : PageStore.pageCount s < 2 ^ 64)
    (hsize : headerSize + payloadCapacity (PageStore.pageSize s) ≤ PageStore.pageSize s)
    (hcap : payloadCapacity (PageStore.pageSize s) < 2 ^ 32)
    (hpayloads : ∀ data ∈ payloads,
      data.length ≤ payloadCapacity (PageStore.pageSize s)) :
    ∃ t pages, writeChain ids payloads s = .ok () t ∧
      PageView.Becomes s t (PageStore.pageCount s) pages ∧
      (∀ id, id ∉ ids → pages id = page s id) ∧
      Chain pages (payloadCapacity (PageStore.pageSize s)) ids payloads := by
  induction ids generalizing s payloads with
  | nil =>
    obtain rfl := List.length_eq_zero_iff.mp hlen.symm
    exact ⟨s, page s, rfl, ⟨hs, rfl, rfl, rfl, rfl⟩, fun _ _ => rfl, .nil⟩
  | cons id ids ih =>
    cases payloads with
    | nil => cases hlen
    | cons data rest =>
      obtain ⟨hnotin, hnodup'⟩ := List.nodup_cons.mp hnodup
      have hdata := hpayloads data List.mem_cons_self
      have hlt := hids id List.mem_cons_self
      have hpage : headerSize + data.length ≤ (page s id).length := by
        rw [LawfulPageStore.length_page hs hlt]
        omega
      -- the link fits 64 bits, as it is null or a page
      have hnext : ids.headD PageId.null < 2 ^ 64 := by
        cases ids with
        | nil => exact Nat.two_pow_pos 64
        | cons next _ =>
          exact Nat.lt_trans (hids next (List.mem_cons_of_mem _ List.mem_cons_self)) hcount
      obtain ⟨t, hrun, hbec⟩ := LawfulPageStore.modify_ok
        (writePage (ids.headD PageId.null) data) hs hlt
        (by rw [length_writePage hpage, LawfulPageStore.length_page hs hlt])
      obtain ⟨u, pages, hrun', hbec', hsame, hchain⟩ := ih hbec.sound
        (by
          intro id' hid'
          rw [hbec.pageCount_eq]
          exact hids id' (List.mem_cons_of_mem _ hid'))
        hnodup' (Nat.succ.inj hlen) (by rw [hbec.pageCount_eq]; exact hcount)
        (by rw [hbec.pageSize_eq]; exact hsize) (by rw [hbec.pageSize_eq]; exact hcap)
        (by
          intro data' hdata'
          rw [hbec.pageSize_eq]
          exact hpayloads data' (List.mem_cons_of_mem _ hdata'))
      -- the rest of the chain does not contain this page
      have hself : pages id = writePage (ids.headD PageId.null) data (page s id) := by
        rw [hsame id hnotin, hbec.page_eq, Function.update_self]
      refine ⟨u, pages, ?_, ⟨hbec'.sound, hbec'.pageSize_eq.trans hbec.pageSize_eq,
        hbec'.pageCount_eq.trans hbec.pageCount_eq, hbec'.page_eq,
        hbec'.rest_eq.trans hbec.rest_eq⟩, ?_, ?_⟩
      · rw [writeChain, Action.bind_ok hrun, hrun']
      · intro id' hid'
        rw [List.mem_cons, not_or] at hid'
        rw [hsame id' hid'.2, hbec.page_eq, Function.update_of_ne hid'.1]
      · rw [hbec.pageSize_eq] at hchain
        have hpayload : payload (pages id) = data := by
          rw [hself, payload_writePage (by omega)]
        rw [← hpayload]
        refine .cons ?_ ?_ hchain
        · rw [hself, link_writePage hnext]
        · rw [hself, payloadSize_writePage (by omega)]
          exact hdata

end Snapshot

end PagedTables
