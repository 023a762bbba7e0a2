/-
# Where a chain leads

The links of a chain are read from the bytes of its pages, so they may lead anywhere: out of the
store, or back to a page of the chain. Following them comes to an end nevertheless, after at most
as many pages as the store has, and this bound neither rejects a chain that ends nor accepts one
that goes around in a circle.

* `Snapshot.Leads` : where the links of snapshot pages lead;
* `Snapshot.followChain_ending` : the ways in which following a chain can end;
* `Snapshot.followChain_watched` : how many pages are asked for;
* `Snapshot.readChain_exact` : a chain is read if and only if its links come to the null link.
-/
import PagedTables.Proofs.Snapshot.Chain

namespace PagedTables

namespace Snapshot

/-! ## Links -/

/-- A page of the chain can be read, so that its link is followed. -/
structure Readable (pages : PageId → Bytes) (capacity count : Nat) (id : PageId) : Prop where
  ne_null : id ≠ PageId.null
  lt_count : id < count
  size_le : payloadSize (pages id) ≤ capacity

/-- Following the links from the first page passes through these pages and comes to the last
number, which need not be a page. -/
inductive Leads (pages : PageId → Bytes) (capacity count : Nat) :
    PageId → List PageId → PageId → Prop
  /-- No link is followed. -/
  | stay (id : PageId) : Leads pages capacity count id [] id
  /-- The page can be read, and its link is followed. -/
  | follow {id : PageId} {ids : List PageId} {last : PageId} :
      id ≠ PageId.null → id < count → payloadSize (pages id) ≤ capacity →
      Leads pages capacity count (link (pages id)) ids last →
      Leads pages capacity count id (id :: ids) last

section Leads

variable {pages : PageId → Bytes} {capacity count n : Nat} {id last last' : PageId}
variable {ids ids' : List PageId}

/-- All pages on the way can be read. -/
theorem Leads.readable (h : Leads pages capacity count id ids last) {x : PageId} (hx : x ∈ ids) :
    Readable pages capacity count x := by
  induction h with
  | stay => cases hx
  | follow hnull hlt hsize _ ih =>
    rcases List.mem_cons.mp hx with rfl | hx
    · exact ⟨hnull, hlt, hsize⟩
    · exact ih hx

/-- A way that ends where no link is followed continues every other way. -/
theorem Leads.rest (h : Leads pages capacity count id ids last)
    (hlast : ¬Readable pages capacity count last)
    (h' : Leads pages capacity count id ids' last') :
    ∃ rest, ids = ids' ++ rest ∧ Leads pages capacity count last' rest last := by
  induction h' generalizing ids with
  | stay => exact ⟨ids, rfl, h⟩
  | follow hnull hlt hsize _ ih =>
    cases h with
    | stay => exact absurd ⟨hnull, hlt, hsize⟩ hlast
    | follow _ _ _ hrest =>
      obtain ⟨rest, rfl, hleads⟩ := ih hrest
      exact ⟨rest, rfl, hleads⟩

/-- There is one such way only. -/
theorem Leads.unique (h : Leads pages capacity count id ids last)
    (hlast : ¬Readable pages capacity count last)
    (h' : Leads pages capacity count id ids' last')
    (hlast' : ¬Readable pages capacity count last') : ids = ids' ∧ last = last' := by
  obtain ⟨rest, rfl, hrest⟩ := h.rest hlast h'
  cases hrest with
  | stay => exact ⟨List.append_nil ids', rfl⟩
  | follow hnull hlt hsize _ => exact absurd ⟨hnull, hlt, hsize⟩ hlast'

/-- Every page on the way leads to the same place, in as many steps or fewer. -/
theorem Leads.of_mem (h : Leads pages capacity count id ids last) {x : PageId} (hx : x ∈ ids) :
    ∃ rest, Leads pages capacity count x rest last ∧ rest.length ≤ ids.length := by
  induction h with
  | stay => cases hx
  | follow hnull hlt hsize hrest ih =>
    rcases List.mem_cons.mp hx with rfl | hx
    · exact ⟨_, .follow hnull hlt hsize hrest, Nat.le_refl _⟩
    · obtain ⟨rest, hleads, hle⟩ := ih hx
      exact ⟨rest, hleads, Nat.le_succ_of_le hle⟩

/-- A way that comes to an end does not pass through a page twice. -/
theorem Leads.nodup (h : Leads pages capacity count id ids last)
    (hlast : ¬Readable pages capacity count last) : ids.Nodup := by
  induction h with
  | stay => exact List.nodup_nil
  | follow hnull hlt hsize hrest ih =>
    refine List.nodup_cons.mpr ⟨fun hmem => ?_, ih hlast⟩
    obtain ⟨rest, hleads, hle⟩ := hrest.of_mem hmem
    obtain ⟨rfl, -⟩ := hleads.unique hlast (.follow hnull hlt hsize hrest) hlast
    exact Nat.not_succ_le_self _ hle

/-- All pages but the null page may be on such a way, and no others. -/
theorem Leads.length_le (h : Leads pages capacity count id ids last)
    (hlast : ¬Readable pages capacity count last) : ids.length ≤ count - 1 := by
  have hsubset : ids ⊆ List.range' 1 (count - 1) := by
    intro x hx
    obtain ⟨hnull, hlt, -⟩ := h.readable hx
    rw [List.mem_range'_1, Nat.add_sub_cancel' (Nat.one_le_of_lt hlt)]
    exact ⟨Nat.pos_of_ne_zero hnull, hlt⟩
  have hle := (List.subperm_of_subset (h.nodup hlast) hsubset).length_le
  rwa [List.length_range'] at hle

/-- The way does not depend on any other pages. -/
theorem Leads.of_pages {pages' : PageId → Bytes} (h : Leads pages capacity count id ids last)
    (hpages : ∀ x, x ≠ PageId.null → x < count → pages' x = pages x) :
    Leads pages' capacity count id ids last := by
  induction h with
  | stay => exact .stay _
  | follow hnull hlt hsize _ ih =>
    have hpage := hpages _ hnull hlt
    rw [← hpage] at hsize ih
    exact .follow hnull hlt hsize ih

/-- The end of a chain is no page. -/
theorem not_readable_null : ¬Readable pages capacity count PageId.null :=
  fun h => h.ne_null rfl

/-- A number behind the last page is no page. -/
theorem not_readable_of_le (h : count ≤ id) : ¬Readable pages capacity count id :=
  fun hr => absurd hr.lt_count (Nat.not_lt.mpr h)

/-- A page that claims too long a payload is not read. -/
theorem not_readable_of_oversized (h : capacity < payloadSize (pages id)) :
    ¬Readable pages capacity count id :=
  fun hr => absurd hr.size_le (Nat.not_le.mpr h)

end Leads

/-! ## Following links -/

/-- The ways in which following a chain from a page can end. -/
inductive Ending {σ : Type} (pages : PageId → Bytes) (capacity count fuel : Nat) (id : PageId) :
    EStateM.Result StoreError σ (Bytes × List PageId) → Prop
  /-- The links come to the null link. -/
  | whole {ids : List PageId} {t : σ} : Leads pages capacity count id ids PageId.null →
      ids.length ≤ fuel →
      Ending pages capacity count fuel id (.ok (ids.flatMap fun x => payload (pages x), ids) t)
  /-- The chain is longer than it may be. -/
  | cycle {ids : List PageId} {last : PageId} {t : σ} : Leads pages capacity count id ids last →
      ids.length = fuel → last ≠ PageId.null →
      Ending pages capacity count fuel id (.error (.damaged .chainCycle) t)
  /-- A link leads out of the store. -/
  | missing {ids : List PageId} {last : PageId} {t : σ} :
      Leads pages capacity count id ids last → ids.length < fuel → last ≠ PageId.null →
      count ≤ last →
      Ending pages capacity count fuel id (.error (.pageNotFound last) t)
  /-- A page claims more payload than fits. -/
  | oversized {ids : List PageId} {last : PageId} {t : σ} :
      Leads pages capacity count id ids last → ids.length < fuel → last ≠ PageId.null →
      last < count → capacity < payloadSize (pages last) →
      Ending pages capacity count fuel id
        (.error (.damaged (.oversizedPayload last (payloadSize (pages last)))) t)

variable {σ : Type} [PageStore σ]

/-- Nothing is read at the end of a chain. -/
theorem followChain_null (capacity fuel : Nat) (s : σ) :
    followChain capacity fuel PageId.null s = .ok ([], []) s := by
  unfold followChain
  rw [if_pos rfl]
  rfl

/-- A chain that goes on when the fuel is used up is taken for a cycle. -/
theorem followChain_zero (capacity : Nat) {id : PageId} (hid : id ≠ PageId.null) (s : σ) :
    followChain capacity 0 id s = .error (.damaged .chainCycle) s := by
  rw [followChain, if_neg hid]
  rfl

section Lawful

variable [PageView σ] [LawfulPageStore σ] [BoundedPageStore σ] {s : σ}

open PageView (page)

/-- Following a chain ends in one of these ways, whatever the pages hold. -/
theorem followChain_ending (hs : PageView.Sound s) (capacity fuel : Nat) (id : PageId) :
    Ending (page s) capacity (PageStore.pageCount s) fuel id
      (followChain capacity fuel id s) := by
  induction fuel generalizing s id with
  | zero =>
    by_cases hnull : id = PageId.null
    · subst hnull
      rw [followChain_null]
      exact .whole (.stay _) (Nat.le_refl 0)
    · rw [followChain_zero capacity hnull]
      exact .cycle (.stay id) rfl hnull
  | succ fuel ih =>
    by_cases hnull : id = PageId.null
    · subst hnull
      rw [followChain_null]
      exact .whole (.stay _) (Nat.zero_le _)
    rw [followChain_succ fuel hnull]
    by_cases hlt : id < PageStore.pageCount s
    · obtain ⟨t, hread, hbec, -⟩ := LawfulPageStore.read_ok hs hlt
      rw [Action.bind_ok hread]
      by_cases hsize : capacity < payloadSize (page s id)
      · rw [if_pos hsize]
        exact .oversized (.stay id) (Nat.succ_pos fuel) hnull hlt hsize
      · rw [if_neg hsize]
        have hrest := ih hbec.sound (link (page s id))
        rw [hbec.page_eq, hbec.pageCount_eq] at hrest
        have hfollow : ∀ {ids last},
            Leads (page s) capacity (PageStore.pageCount s) (link (page s id)) ids last →
            Leads (page s) capacity (PageStore.pageCount s) id (id :: ids) last :=
          fun h => .follow hnull hlt (Nat.not_lt.mp hsize) h
        generalize hrun : followChain capacity fuel (link (page s id)) t = r at hrest
        cases hrest with
        | whole hleads hle =>
          rw [Action.bind_ok hrun]
          exact .whole (hfollow hleads) (Nat.succ_le_succ hle)
        | cycle hleads hlen hlast =>
          rw [Action.bind_error hrun]
          exact .cycle (hfollow hleads) (congrArg Nat.succ hlen) hlast
        | missing hleads hlen hlast hle =>
          rw [Action.bind_error hrun]
          exact .missing (hfollow hleads) (Nat.succ_lt_succ hlen) hlast hle
        | oversized hleads hlen hlast hlt hover =>
          rw [Action.bind_error hrun]
          exact .oversized (hfollow hleads) (Nat.succ_lt_succ hlen) hlast hlt hover
    · have hle := Nat.not_lt.mp hlt
      rw [Action.bind_error (BoundedPageStore.read_missing hle)]
      exact .missing (.stay id) (Nat.succ_pos fuel) hnull hle

/-- A way out of the store is followed to its end. -/
theorem followChain_of_leads {capacity fuel : Nat} {id last : PageId} {ids : List PageId}
    (hs : PageView.Sound s)
    (hleads : Leads (page s) capacity (PageStore.pageCount s) id ids last)
    (hnull : last ≠ PageId.null) (hle : PageStore.pageCount s ≤ last) (hfuel : ids.length < fuel) :
    ∃ t, followChain capacity fuel id s = .error (.pageNotFound last) t := by
  have hlast : ¬Readable (page s) capacity (PageStore.pageCount s) last := not_readable_of_le hle
  have hending := followChain_ending hs capacity fuel id
  generalize followChain capacity fuel id s = r at hending ⊢
  cases hending with
  | whole hleads' =>
    obtain ⟨-, rfl⟩ := hleads.unique hlast hleads' not_readable_null
    exact absurd rfl hnull
  | cycle hleads' hlen =>
    obtain ⟨rest, rfl, -⟩ := hleads.rest hlast hleads'
    rw [List.length_append] at hfuel
    omega
  | missing hleads' _ _ hle' =>
    obtain ⟨-, rfl⟩ := hleads.unique hlast hleads' (not_readable_of_le hle')
    exact ⟨_, rfl⟩
  | oversized hleads' _ _ hlt hover =>
    obtain ⟨-, rfl⟩ := hleads.unique hlast hleads' (not_readable_of_oversized hover)
    exact absurd hlt (Nat.not_lt.mpr hle)

end Lawful

end Snapshot

/-! ## The pages that are asked for -/

/-- A page store that notes which pages are asked for. -/
structure Watched (σ : Type) where
  /-- The store itself. -/
  store : σ
  /-- The numbers of the pages, in the order in which they were asked for. -/
  asked : List PageId

namespace Watched

variable {σ α β : Type}

/-- Runs an action of the store that asks for these pages. -/
def asking (ids : List PageId) (act : Action StoreError σ α) :
    Action StoreError (Watched σ) α :=
  Action.within Watched.store (fun w s => ⟨s, w.asked ++ ids⟩) id act

instance [PageStore σ] : PageStore (Watched σ) where
  pageSize w := PageStore.pageSize w.store
  pageCount w := PageStore.pageCount w.store
  read id := asking [id] (PageStore.read id)
  modify id change := asking [id] (PageStore.modify id change)
  append page := asking [] (PageStore.append page)

section Asking

variable {ids : List PageId} {act : Action StoreError σ α} {w : Watched σ} {s : σ} {a : α}
variable {e : StoreError}

theorem asking_ok (h : act w.store = .ok a s) : asking ids act w = .ok a ⟨s, w.asked ++ ids⟩ :=
  Action.within_ok h

theorem asking_error (h : act w.store = .error e s) :
    asking ids act w = .error e ⟨s, w.asked ++ ids⟩ :=
  Action.within_error h

/-- Noting which pages are asked for leaves the outcome of an action. -/
theorem outcome_asking : (asking ids act).outcome w =
    ((act.outcome w.store).1, ⟨(act.outcome w.store).2, w.asked ++ ids⟩) := by
  cases h : act w.store with
  | ok a s => rw [Action.outcome_of_ok h, Action.outcome_of_ok (asking_ok h)]
  | error e s => rw [Action.outcome_of_error h, Action.outcome_of_error (asking_error h)]

end Asking

/-- The first action asks for at most `n` pages, and apart from this does what the second does. -/
def Asks (n : Nat) (watched : Action StoreError (Watched σ) α) (act : Action StoreError σ α) :
    Prop :=
  ∀ w, ∃ asked, asked.length ≤ n ∧ watched w = asking asked act w

namespace Asks

variable {m n : Nat} {watched : Action StoreError (Watched σ) α} {act : Action StoreError σ α}

theorem answer (a : α) : Asks n (pure a) (pure a : Action StoreError σ α) := by
  intro w
  refine ⟨[], Nat.zero_le n, ?_⟩
  rw [asking_ok (show (pure a : Action StoreError σ α) w.store = .ok a w.store from rfl),
    List.append_nil]
  rfl

theorem fail (e : StoreError) : Asks n (throw e) (throw e : Action StoreError σ α) := by
  intro w
  refine ⟨[], Nat.zero_le n, ?_⟩
  rw [asking_error (show (throw e : Action StoreError σ α) w.store = .error e w.store from rfl),
    List.append_nil]
  rfl

theorem read [PageStore σ] (id : PageId) :
    Asks 1 (PageStore.read id) (PageStore.read id : Action StoreError σ Bytes) :=
  fun _ => ⟨[id], Nat.le_refl 1, rfl⟩

theorem bind {rest' : α → Action StoreError (Watched σ) β} {rest : α → Action StoreError σ β}
    (h : Asks m watched act) (hrest : ∀ a, Asks n (rest' a) (rest a)) :
    Asks (m + n) (watched >>= rest') (act >>= rest) := by
  intro w
  obtain ⟨asked, hle, hrun⟩ := h w
  cases hact : act w.store with
  | error e s =>
    refine ⟨asked, Nat.le_add_right_of_le hle, ?_⟩
    rw [asking_error (Action.bind_error hact), Action.bind_error (hrun.trans (asking_error hact))]
  | ok a s =>
    obtain ⟨asked', hle', hrun'⟩ := hrest a ⟨s, w.asked ++ asked⟩
    refine ⟨asked ++ asked', ?_, ?_⟩
    · rw [List.length_append]
      exact Nat.add_le_add hle hle'
    rw [Action.bind_ok (hrun.trans (asking_ok hact)), hrun']
    cases hlast : rest a s with
    | ok b t =>
      rw [asking_ok (w := ⟨s, w.asked ++ asked⟩) hlast,
        asking_ok ((Action.bind_ok hact).trans hlast), List.append_assoc]
    | error e t =>
      rw [asking_error (w := ⟨s, w.asked ++ asked⟩) hlast,
        asking_error ((Action.bind_ok hact).trans hlast), List.append_assoc]

end Asks

end Watched

namespace Snapshot

/-- Following a chain asks for at most as many pages as it may, whatever the page store. -/
theorem followChain_watched {σ : Type} [PageStore σ] (capacity fuel : Nat) (id : PageId) :
    Watched.Asks fuel (followChain capacity fuel id)
      (followChain capacity fuel id : Action StoreError σ (Bytes × List PageId)) := by
  induction fuel generalizing id with
  | zero =>
    unfold followChain
    by_cases hnull : id = PageId.null
    · rw [if_pos hnull, if_pos hnull]
      exact .answer _
    · rw [if_neg hnull, if_neg hnull]
      exact .fail _
  | succ fuel ih =>
    by_cases hnull : id = PageId.null
    · unfold followChain
      rw [if_pos hnull, if_pos hnull]
      exact .answer _
    rw [followChain_succ fuel hnull, followChain_succ fuel hnull, Nat.add_comm]
    refine .bind (.read id) fun bytes => ?_
    by_cases hsize : capacity < payloadSize bytes
    · rw [if_pos hsize, if_pos hsize]
      exact .fail _
    · rw [if_neg hsize, if_neg hsize]
      exact .bind (n := 0) (ih (link bytes)) fun r =>
        .answer (payload bytes ++ r.1, id :: r.2)

/-- Reading a chain asks for at most as many pages as the store has. -/
theorem readChain_watched {σ : Type} [PageStore σ] (head : PageId) (w : Watched σ) :
    ∃ asked, asked.length ≤ PageStore.pageCount w.store ∧ (readChain head).outcome w =
      (((readChain head).outcome w.store).1,
        ⟨((readChain head).outcome w.store).2, w.asked ++ asked⟩) := by
  obtain ⟨asked, hle, hfollow⟩ := followChain_watched (payloadCapacity (PageStore.pageSize w.store))
    (PageStore.pageCount w.store) head w
  have hrun : readChain head w = Watched.asking asked (readChain head) w := hfollow
  refine ⟨asked, hle, ?_⟩
  rw [← Watched.outcome_asking, Action.outcome, hrun, ← Action.outcome]

/-! ## Steps along the links -/

/-- The page after `n` links. -/
def visit (pages : PageId → Bytes) (head : PageId) (n : Nat) : PageId :=
  (fun id => link (pages id))^[n] head

section Visit

variable {pages : PageId → Bytes} {capacity count n i j : Nat} {id last : PageId}
variable {ids : List PageId}

/-- The next visit goes where the link leads. -/
theorem visit_succ : visit pages id (n + 1) = link (pages (visit pages id n)) :=
  Function.iterate_succ_apply' _ n id

/-- A way goes from page to page along the links. -/
theorem Leads.eq_visit (h : Leads pages capacity count id ids last) :
    ids = (List.range ids.length).map (visit pages id) ∧ last = visit pages id ids.length := by
  induction h with
  | stay => exact ⟨rfl, rfl⟩
  | @follow id ids last hnull hlt hsize hrest ih =>
    obtain ⟨hids, hlast⟩ := ih
    refine ⟨?_, hlast⟩
    rw [List.length_cons, List.range_succ_eq_map, List.map_cons, List.map_map]
    exact congrArg (id :: ·) hids

/-- The visits are a way, as long as the pages can be read. -/
theorem leads_visit (h : ∀ k < n, Readable pages capacity count (visit pages id k)) :
    Leads pages capacity count id ((List.range n).map (visit pages id)) (visit pages id n) := by
  induction n generalizing id with
  | zero => exact .stay id
  | succ n ih =>
    obtain ⟨hnull, hlt, hsize⟩ := h 0 (Nat.succ_pos n)
    rw [List.range_succ_eq_map, List.map_cons, List.map_map]
    exact .follow hnull hlt hsize (ih fun k hk => h (k + 1) (Nat.succ_lt_succ hk))

/-- Links that come back to a page lead to the same pages over and over. -/
theorem exists_visit_eq (hlt : i < j) (heq : visit pages id i = visit pages id j) (k : Nat) :
    ∃ m < j, visit pages id k = visit pages id m := by
  induction k with
  | zero => exact ⟨0, Nat.zero_lt_of_lt hlt, rfl⟩
  | succ k ih =>
    obtain ⟨m, hm, hk⟩ := ih
    have hnext : visit pages id (k + 1) = visit pages id (m + 1) := by
      rw [visit_succ, hk, ← visit_succ]
    rcases Nat.lt_or_eq_of_le (Nat.succ_le_of_lt hm) with hm' | rfl
    · exact ⟨m + 1, hm', hnext⟩
    · exact ⟨i, hlt, hnext.trans heq.symm⟩

end Visit

/-! ## Reading chains -/

open PageView (page)

/-- The links from `head` come to the null link after `n` pages, all of which can be read. -/
structure EndsAfter {σ : Type} [PageStore σ] [PageView σ] (s : σ) (head : PageId) (n : Nat) :
    Prop where
  readable : ∀ k < n, Readable (page s) (payloadCapacity (PageStore.pageSize s))
    (PageStore.pageCount s) (visit (page s) head k)
  visit_eq : visit (page s) head n = PageId.null

variable {σ : Type} [PageStore σ] [PageView σ] {s : σ} {head : PageId} {ids : List PageId} {n : Nat}

/-- A chain that ends is a way to its end. -/
theorem EndsAfter.leads (h : EndsAfter s head n) :
    Leads (page s) (payloadCapacity (PageStore.pageSize s)) (PageStore.pageCount s) head
      ((List.range n).map (visit (page s) head)) PageId.null :=
  h.visit_eq ▸ leads_visit h.readable

/-- A way to the end of a chain is the whole chain. -/
theorem Leads.endsAfter (h : Leads (page s) (payloadCapacity (PageStore.pageSize s))
    (PageStore.pageCount s) head ids PageId.null) : EndsAfter s head ids.length where
  readable k hk := by
    have hids := h.eq_visit.1
    have hmem : visit (page s) head k ∈ ids := by
      rw [hids]
      exact List.mem_map_of_mem (List.mem_range.mpr hk)
    exact h.readable hmem
  visit_eq := h.eq_visit.2.symm

/-- Links that come back to a page they have passed never come to the null link. -/
theorem not_endsAfter_of_cycle {i j : Nat} (hlt : i < j)
    (heq : visit (page s) head i = visit (page s) head j)
    (hbefore : ∀ k < j, visit (page s) head k ≠ PageId.null) (n : Nat) : ¬EndsAfter s head n := by
  intro h
  obtain ⟨m, hm, hvisit⟩ := exists_visit_eq hlt heq n
  exact hbefore m hm (hvisit.symm.trans h.visit_eq)

variable [LawfulPageStore σ]

/-- The payload of a page that can be read is as long as the page claims. -/
theorem Readable.length_payload {id : PageId} (hs : PageView.Sound s)
    (h : Readable (page s) (payloadCapacity (PageStore.pageSize s)) (PageStore.pageCount s) id) :
    (payload (page s id)).length = payloadSize (page s id) := by
  have hsize := h.size_le
  rw [payloadCapacity, ← LawfulPageStore.length_page hs h.lt_count] at hsize
  rw [payload, Bytes.slice, List.length_take, List.length_drop]
  exact Nat.min_eq_left hsize

variable [BoundedPageStore σ]

/-- Following a chain from its head ends in one of the possible ways. -/
theorem readChain_ending (hs : PageView.Sound s) (head : PageId) :
    Ending (page s) (payloadCapacity (PageStore.pageSize s)) (PageStore.pageCount s)
      (PageStore.pageCount s) head (readChain head s) :=
  followChain_ending hs _ _ head

/-- A chain that ends is read: it does not have more pages than the store. -/
theorem readChain_of_leads (hs : PageView.Sound s)
    (hleads : Leads (page s) (payloadCapacity (PageStore.pageSize s)) (PageStore.pageCount s)
      head ids PageId.null) :
    ∃ t, readChain head s = .ok (ids.flatMap fun id => payload (page s id), ids) t := by
  have hending := readChain_ending hs head
  generalize readChain head s = r at hending ⊢
  cases hending with
  | whole hleads' =>
    obtain ⟨rfl, -⟩ := hleads.unique not_readable_null hleads' not_readable_null
    exact ⟨_, rfl⟩
  | cycle hleads' hlen hlast =>
    have hle := hleads.length_le not_readable_null
    obtain ⟨rest, rfl, hrest⟩ := hleads.rest not_readable_null hleads'
    cases hrest with
    | stay => exact absurd rfl hlast
    | follow =>
      rw [List.length_append, List.length_cons] at hle
      omega
  | missing hleads' _ hlast hle =>
    obtain ⟨-, rfl⟩ := hleads.unique not_readable_null hleads' (not_readable_of_le hle)
    exact absurd rfl hlast
  | oversized hleads' _ hlast _ hover =>
    obtain ⟨-, rfl⟩ := hleads.unique not_readable_null hleads' (not_readable_of_oversized hover)
    exact absurd rfl hlast

/-- A chain that is read has come to its end. -/
theorem leads_of_readChain {stream : Bytes} {t : σ} (hs : PageView.Sound s)
    (hrun : readChain head s = .ok (stream, ids) t) :
    Leads (page s) (payloadCapacity (PageStore.pageSize s)) (PageStore.pageCount s)
      head ids PageId.null ∧ stream = ids.flatMap fun id => payload (page s id) := by
  have hending := readChain_ending hs head
  rw [hrun] at hending
  cases hending with
  | whole hleads => exact ⟨hleads, rfl⟩

/-- If all pages of a circle can be read, the circle itself is what is reported. -/
theorem readChain_of_cycle {i j : Nat} (hs : PageView.Sound s) (hlt : i < j)
    (heq : visit (page s) head i = visit (page s) head j)
    (hreadable : ∀ k < j, Readable (page s) (payloadCapacity (PageStore.pageSize s))
      (PageStore.pageCount s) (visit (page s) head k)) :
    ∃ t, readChain head s = .error (.damaged .chainCycle) t := by
  -- the links never leave the circle, so they lead to pages that can be read only
  have hall : ∀ {ids last}, Leads (page s) (payloadCapacity (PageStore.pageSize s))
      (PageStore.pageCount s) head ids last →
      Readable (page s) (payloadCapacity (PageStore.pageSize s)) (PageStore.pageCount s) last := by
    intro ids last hleads
    obtain ⟨m, hm, hvisit⟩ := exists_visit_eq hlt heq ids.length
    rw [hleads.eq_visit.2, hvisit]
    exact hreadable m hm
  have hending := readChain_ending hs head
  generalize readChain head s = r at hending ⊢
  cases hending with
  | whole hleads => exact absurd (hall hleads) not_readable_null
  | cycle => exact ⟨_, rfl⟩
  | missing hleads _ _ hle => exact absurd (hall hleads) (not_readable_of_le hle)
  | oversized hleads _ _ _ hover => exact absurd (hall hleads) (not_readable_of_oversized hover)

/-- **Reading a chain ends, and is exact**, whatever the pages hold.

1. It asks for at most as many pages as the store has.
2. It has a result if and only if the links come to the null link through pages of the store
   whose payload fits.
3. The pages of the result are the ones on the way, in order and each of them once, and the
   stream is their payloads, which are as long as the pages claim.
4. Links that go around in a circle are an error, and this circle is reported if its pages can be
   read. -/
theorem readChain_exact (hs : PageView.Sound s) (head : PageId) :
    (∃ asked, asked.length ≤ PageStore.pageCount s ∧
      (readChain head).outcome (⟨s, []⟩ : Watched σ) =
        (((readChain head).outcome s).1, ⟨((readChain head).outcome s).2, asked⟩)) ∧
    ((∃ stream ids t, readChain head s = .ok (stream, ids) t) ↔ ∃ n, EndsAfter s head n) ∧
    (∀ stream ids t, readChain head s = .ok (stream, ids) t →
      EndsAfter s head ids.length ∧ ids = (List.range ids.length).map (visit (page s) head) ∧
      ids.Nodup ∧ PageId.null ∉ ids ∧ stream = (ids.map fun id => payload (page s id)).flatten ∧
      ∀ id ∈ ids, (payload (page s id)).length = payloadSize (page s id)) ∧
    ∀ i j, i < j → visit (page s) head i = visit (page s) head j →
      (∀ k < j, visit (page s) head k ≠ PageId.null) →
      ∃ e t, readChain head s = .error e t ∧
        ((∀ k < j, Readable (page s) (payloadCapacity (PageStore.pageSize s))
          (PageStore.pageCount s) (visit (page s) head k)) → e = .damaged .chainCycle) := by
  have hends : ∀ {stream ids t}, readChain head s = .ok (stream, ids) t →
      EndsAfter s head ids.length :=
    fun hrun => (leads_of_readChain hs hrun).1.endsAfter
  refine ⟨readChain_watched head ⟨s, []⟩, ⟨?_, ?_⟩, ?_, ?_⟩
  · rintro ⟨stream, ids, t, hrun⟩
    exact ⟨ids.length, hends hrun⟩
  · rintro ⟨n, hn⟩
    obtain ⟨t, hrun⟩ := readChain_of_leads hs hn.leads
    exact ⟨_, _, t, hrun⟩
  · intro stream ids t hrun
    obtain ⟨hleads, hstream⟩ := leads_of_readChain hs hrun
    refine ⟨hends hrun, hleads.eq_visit.1, hleads.nodup not_readable_null,
      fun hnull => not_readable_null (hleads.readable hnull), hstream,
      fun id hid => (hleads.readable hid).length_payload hs⟩
  · intro i j hlt heq hbefore
    cases hrun : readChain head s with
    | ok r t => exact absurd (hends hrun) (not_endsAfter_of_cycle hlt heq hbefore _)
    | error e t =>
      refine ⟨e, t, rfl, fun hreadable => ?_⟩
      obtain ⟨u, hcycle⟩ := readChain_of_cycle hs hlt heq hreadable
      rw [hrun] at hcycle
      injection hcycle

/-- Pages 1 and 2 are a chain, and page 3 leads into the circle of pages 4 and 5. -/
def circling : PageArray :=
  ⟨16, [(0, []), (2, [7]), (0, [8, 9]), (4, []), (5, []), (4, [])].map fun page =>
    writePage page.1 page.2 (Bytes.zeros 16)⟩

/-- The chain is read, and entered at page 3 the circle is reported. -/
theorem readChain_exact_of_circling : PageView.Sound circling ∧
    (∃ stream ids t, readChain 1 circling = .ok (stream, ids) t ∧
      EndsAfter circling 1 ids.length) ∧
    ∃ t, readChain 3 circling = .error (.damaged .chainCycle) t := by
  have hs : PageView.Sound circling := by
    show ∀ page ∈ circling.pages, page.length = circling.pageSize
    decide
  have hends : EndsAfter circling 1 2 := by
    refine ⟨fun k hk => ?_, by decide⟩
    have hk' : k = 0 ∨ k = 1 := by omega
    rcases hk' with rfl | rfl <;> exact ⟨by decide, by decide, by decide⟩
  have hreadable : ∀ k < 3, Readable (page circling)
      (payloadCapacity (PageStore.pageSize circling)) (PageStore.pageCount circling)
      (visit (page circling) 3 k) := by
    intro k hk
    have hk' : k = 0 ∨ k = 1 ∨ k = 2 := by omega
    rcases hk' with rfl | rfl | rfl <;> exact ⟨by decide, by decide, by decide⟩
  obtain ⟨-, hok, hanswer, -⟩ := readChain_exact hs 1
  obtain ⟨-, -, -, hcycle⟩ := readChain_exact hs 3
  obtain ⟨stream, ids, t, hrun⟩ := hok.mpr ⟨2, hends⟩
  obtain ⟨e, u, hrun', he⟩ := hcycle 1 3 (by decide) (by decide)
    fun k hk => (hreadable k hk).ne_null
  exact ⟨hs, ⟨stream, ids, t, hrun, (hanswer stream ids t hrun).1⟩, u, he hreadable ▸ hrun'⟩

end Snapshot

end PagedTables
