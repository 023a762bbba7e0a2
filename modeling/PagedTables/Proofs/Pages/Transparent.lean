/-
# The page cache cannot be seen

A page file answers as if it had no cache. What makes it so is that a page in the cache is either
one that was changed, or a copy of the page in the file; every call keeps this, also where pages
are cut off and added again, or written and then changed again.

* `PageFile.Cached` : what the cache may have under a number;
* `PageFile.Shows` : a page file that stands for one without a cache;
* `PageFile.Shows.perform` : every call keeps it so, and answers the same;
* `PageFile.runs_of_createAt` : all calls on a new file;
* `PageFile.cache_transparent` : all calls on a file.
-/
import PagedTables.Proofs.Pages.Plain

namespace PagedTables

namespace PageFile

/-! ## The cache and the file -/

/-- What the cache may have under a number: nothing or a copy of the page in the file where the
page was not changed, and the changed page where it was. -/
inductive Cached (p : PlainFile) (id : PageId) : Option CachedPage → Prop
  /-- Nothing. -/
  | absent : p.overlay.lookup id = none → Cached p id none
  /-- A copy of the page in the file. -/
  | clean : p.overlay.lookup id = none → (id + 1) * p.pageSize ≤ p.file.length →
      Cached p id (some ⟨storedPage p.pageSize p.file id, false⟩)
  /-- The changed page. -/
  | dirty {bytes : Bytes} : p.overlay.lookup id = some bytes → Cached p id (some ⟨bytes, true⟩)

/-- A page file stands for one without a cache. -/
structure Shows (f : PageFile) (p : PlainFile) : Prop where
  faults_eq : f.disk.faults = []
  pageSize_eq : f.pageSize = p.pageSize
  file_eq : f.disk.bytes = p.file
  count_eq : f.pageCount = p.count
  cached : ∀ id, Cached p id (f.cache.lookup id)

variable {f : PageFile} {p q : PlainFile} {id : PageId} {bytes : Bytes} {c : Option CachedPage}
variable {which : PageId → Bool}

/-- The cache may have the same under a number as long as the page is the same. -/
theorem Cached.of_eq (h : Cached p id c) (hsize : q.pageSize = p.pageSize)
    (hoverlay : q.overlay.lookup id = p.overlay.lookup id)
    (hfile : p.overlay.lookup id = none → (id + 1) * p.pageSize ≤ p.file.length →
      (id + 1) * p.pageSize ≤ q.file.length ∧
        storedPage p.pageSize q.file id = storedPage p.pageSize p.file id) : Cached q id c := by
  cases h with
  | absent hnone => exact .absent (hoverlay.trans hnone)
  | clean hnone hle =>
    obtain ⟨hle', hstored⟩ := hfile hnone hle
    rw [← hsize] at hle' hstored
    rw [← hsize, ← hstored]
    exact .clean (hoverlay.trans hnone) hle'
  | dirty hsome => exact .dirty (hoverlay.trans hsome)

/-- A page that was changed is at hand. -/
theorem Cached.eq_of_lookup (h : Cached p id c) (hsome : p.overlay.lookup id = some bytes) :
    c = some ⟨bytes, true⟩ := by
  cases h with
  | absent hnone => rw [hnone] at hsome; cases hsome
  | clean hnone => rw [hnone] at hsome; cases hsome
  | dirty hsome' => rw [Option.some.inj (hsome'.symm.trans hsome)]

/-- The pages in the cache that count as changed are those that were changed. -/
theorem Cached.dirty_iff (h : Cached p id c) :
    (∃ page, c = some page ∧ page.dirty = true ∧ page.bytes = bytes) ↔
      p.overlay.lookup id = some bytes := by
  constructor
  · rintro ⟨page, rfl, hdirty, rfl⟩
    cases h with
    | clean => cases hdirty
    | dirty hsome => exact hsome
  · intro hsome
    exact ⟨_, h.eq_of_lookup hsome, rfl, rfl⟩

namespace Shows

theorem ofDisk (path : String) (size : Nat) (file : Bytes) :
    (PageFile.ofDisk path size { bytes := file }).Shows (PlainFile.opened size file) :=
  ⟨rfl, rfl, rfl, rfl, fun _ => .absent rfl⟩

/-! ## Pages -/

/-- A copy of a page in the file may be put into the cache. -/
theorem insert_clean (h : f.Shows p) (hnone : p.overlay.lookup id = none)
    (hle : (id + 1) * p.pageSize ≤ p.file.length) :
    Shows { f with cache := f.cache.insert id ⟨storedPage p.pageSize p.file id, false⟩ } p where
  faults_eq := h.faults_eq
  pageSize_eq := h.pageSize_eq
  file_eq := h.file_eq
  count_eq := h.count_eq
  cached id' := by
    by_cases heq : id' = id
    · subst heq
      show Cached p id' ((f.cache.insert id' _).lookup id')
      rw [OrderedMap.lookup_insert_self]
      exact .clean hnone hle
    · show Cached p id' ((f.cache.insert id _).lookup id')
      rw [OrderedMap.lookup_insert_of_ne _ _ heq]
      exact h.cached id'

/-- A changed page is put into the cache. -/
theorem insert_dirty (h : f.Shows p) (id : PageId) (bytes : Bytes) :
    Shows { f with cache := f.cache.insert id ⟨bytes, true⟩ } (p.put id bytes) where
  faults_eq := h.faults_eq
  pageSize_eq := h.pageSize_eq
  file_eq := h.file_eq
  count_eq := h.count_eq
  cached id' := by
    by_cases heq : id' = id
    · subst heq
      show Cached _ id' ((f.cache.insert id' _).lookup id')
      rw [OrderedMap.lookup_insert_self]
      exact .dirty (OrderedMap.lookup_insert_self _ _ _)
    · show Cached _ id' ((f.cache.insert id _).lookup id')
      rw [OrderedMap.lookup_insert_of_ne _ _ heq]
      exact (h.cached id').of_eq rfl (OrderedMap.lookup_insert_of_ne _ _ heq)
        fun _ hle => ⟨hle, rfl⟩

/-- Loading a page answers the changed page, or else the one in the file. -/
theorem load (h : f.Shows p) (hs : p.Sound) (hlt : id < p.count) :
    ∃ page g, PageFile.load id f = .ok page g ∧ page.bytes = p.page id ∧ g.Shows p := by
  have hlt' : id < f.pageCount := h.count_eq ▸ hlt
  have hcached := h.cached id
  cases hlookup : f.cache.lookup id with
  | some page =>
    refine ⟨page, f, load_cached hlt' hlookup, ?_, h⟩
    rw [hlookup] at hcached
    cases hcached with
    | clean hnone => exact (PlainFile.page_of_none hnone).symm
    | dirty hsome => exact (PlainFile.page_of_lookup hsome).symm
  | none =>
    rw [hlookup] at hcached
    cases hcached with
    | absent hnone =>
      have hle := hs.stored_le hlt hnone
      have hstored : storedPage f.pageSize f.disk.bytes id = storedPage p.pageSize p.file id := by
        rw [h.pageSize_eq, h.file_eq]
      refine ⟨_, _, load_uncached hlt' hlookup (by rwa [h.pageSize_eq, h.file_eq]),
        hstored.trans (PlainFile.page_of_none hnone).symm, ?_⟩
      rw [hstored]
      exact h.insert_clean hnone hle

/-- A page behind the last one is not found. -/
theorem load_error (h : f.Shows p) (hlt : ¬id < p.count) :
    PageFile.load id f = .error (.pageNotFound id) f := by
  apply load_missing
  rw [h.count_eq]
  exact Nat.not_lt.mp hlt

end Shows

/-! ## Writing back -/

/-- Without faults, a page is written to its place. -/
theorem writeAt_ok (hfaults : f.disk.faults = []) :
    writeAt id bytes f = .ok () { f with
      disk := { f.disk with bytes := f.disk.bytes.overwrite (id * f.pageSize) bytes } } := by
  rw [writeAt, Action.get_bind]
  exact onDisk_ok (Disk.write_ok hfaults _ _)

/-- The page file after changed pages were written. -/
def written (f : PageFile) (l : List (PageId × CachedPage)) : PageFile :=
  { f with
    cache := l.foldl (fun m e => m.insert e.1 ⟨e.2.bytes, false⟩) f.cache
    disk := { f.disk with
      bytes := patched f.pageSize f.disk.bytes (l.map fun e => (e.1, e.2.bytes)) } }

/-- Without faults, writing back writes all the pages. -/
theorem writeBack_run (hfaults : f.disk.faults = []) (l : List (PageId × CachedPage)) :
    writeBack l f = .ok () (f.written l) := by
  induction l generalizing f with
  | nil => rfl
  | cons e rest ih =>
    obtain ⟨id, page⟩ := e
    rw [writeBack, Action.bind_ok (writeAt_ok hfaults)]
    exact ih hfaults

/-- A page that is not written is at hand as before. -/
theorem lookup_written_of_not_mem {l : List (PageId × CachedPage)} (h : id ∉ l.map Prod.fst) :
    (f.written l).cache.lookup id = f.cache.lookup id := by
  show (l.foldl (fun m e => m.insert e.1 ⟨e.2.bytes, false⟩) f.cache).lookup id = _
  generalize f.cache = cache
  induction l generalizing cache with
  | nil => rfl
  | cons e rest ih =>
    rw [List.map_cons, List.mem_cons, not_or] at h
    rw [List.foldl_cons, ih h.2, OrderedMap.lookup_insert_of_ne _ _ h.1]

/-- A page that is written is at hand, and not changed any more. -/
theorem lookup_written_of_mem {l : List (PageId × CachedPage)} {page : CachedPage}
    (hnodup : (l.map Prod.fst).Nodup) (h : (id, page) ∈ l) :
    (f.written l).cache.lookup id = some ⟨page.bytes, false⟩ := by
  induction l generalizing f with
  | nil => cases h
  | cons e rest ih =>
    obtain ⟨hnotin, hnodup'⟩ := List.nodup_cons.mp hnodup
    show (written { f with cache := f.cache.insert e.1 ⟨e.2.bytes, false⟩ } rest).cache.lookup id =
      some ⟨page.bytes, false⟩
    rcases List.mem_cons.mp h with rfl | hrest
    · rw [lookup_written_of_not_mem hnotin]
      exact OrderedMap.lookup_insert_self _ _ _
    · exact ih hnodup' hrest

section Written

variable {l : List (PageId × CachedPage)} (hl : l.Pairwise fun a b => compare a.1 b.1 = .lt)
variable (hmem : ∀ id page, (id, page) ∈ l ↔
  f.cache.lookup id = some page ∧ page.dirty = true ∧ which id = true)

include hl hmem

/-- The pages in the cache that count as changed are the changed pages. -/
theorem Shows.pending_eq (h : f.Shows p) :
    l.map (fun e => (e.1, e.2.bytes)) = (p.pending which).toList := by
  refine OrderedMap.eq_of_mem_iff (List.pairwise_map.mpr hl) (p.pending which).ascending ?_
  rintro ⟨id, bytes⟩
  rw [OrderedMap.mem_toList_iff, PlainFile.lookup_pending_eq_some_iff, List.mem_map,
    ← (h.cached id).dirty_iff]
  constructor
  · rintro ⟨⟨id', page⟩, hin, heq⟩
    injection heq with hid hbytes
    subst hid hbytes
    obtain ⟨hlookup, hdirty, hwhich⟩ := (hmem id' page).mp hin
    exact ⟨hwhich, page, hlookup, hdirty, rfl⟩
  · rintro ⟨hwhich, page, hlookup, hdirty, rfl⟩
    exact ⟨(id, page), (hmem id page).mpr ⟨hlookup, hdirty, hwhich⟩, rfl⟩

/-- A page that was written is a copy of the page in the file, and any other is as it was. -/
theorem Shows.cached_written (h : f.Shows p) (hs : p.Sound) (id : PageId) :
    Cached (p.flush which) id ((f.written l).cache.lookup id) := by
  have hwritten := hs.exactlyWritten which
  cases hlookup : (p.pending which).lookup id with
  | some bytes =>
    obtain ⟨hwhich, hsome⟩ := PlainFile.lookup_pending_eq_some_iff.mp hlookup
    have hin : (id, (⟨bytes, true⟩ : CachedPage)) ∈ l :=
      (hmem id _).mpr ⟨(h.cached id).eq_of_lookup hsome, rfl, hwhich⟩
    obtain ⟨hle, hstored⟩ := hwritten.stored id bytes hlookup
    rw [lookup_written_of_mem (OrderedMap.nodup_keys ⟨l, hl⟩) hin, ← hstored]
    exact .clean (by rw [PlainFile.lookup_flush, if_pos hwhich]) hle
  | none =>
    have hnotin : id ∉ l.map Prod.fst := by
      intro hin
      obtain ⟨⟨id', page⟩, he, rfl⟩ := List.mem_map.mp hin
      obtain ⟨hcache, hdirty, hwhich⟩ := (hmem id' page).mp he
      have hsome := (h.cached id').dirty_iff.mp ⟨page, hcache, hdirty, rfl⟩
      rw [PlainFile.lookup_pending_eq_some_iff.mpr ⟨hwhich, hsome⟩] at hlookup
      cases hlookup
    rw [lookup_written_of_not_mem hnotin]
    refine (h.cached id).of_eq rfl ?_ fun _ hle =>
      ⟨Nat.le_trans hle hwritten.length_ge, hwritten.storedPage_eq hlookup hle⟩
    rw [PlainFile.lookup_pending] at hlookup
    rw [PlainFile.lookup_flush]
    by_cases hwhich : which id = true
    · rw [if_pos hwhich] at hlookup ⊢
      exact hlookup.symm
    · rw [if_neg hwhich]

/-- Writing the changed pages that are asked for does what a flush does where there is no cache. -/
theorem Shows.written (h : f.Shows p) (hs : p.Sound) :
    (f.written l).Shows (p.flush which) := by
  refine ⟨h.faults_eq, h.pageSize_eq, ?_, h.count_eq, h.cached_written hl hmem hs⟩
  show patched f.pageSize f.disk.bytes (l.map _) = patched p.pageSize p.file _
  rw [h.pending_eq hl hmem, h.pageSize_eq, h.file_eq]

end Written

/-- Flushing the pages writes what waits to be written, but for the meta page. -/
theorem Shows.flushPages (h : f.Shows p) (hs : p.Sound) :
    ∃ g, PageFile.flushPages f = .ok (p.pending (· != PageId.metaPage)).size g ∧
      g.Shows (p.flush (· != PageId.metaPage)) := by
  have hl : (f.dirtyPages.filter fun e => e.1 != PageId.metaPage).Pairwise
      fun a b => compare a.1 b.1 = .lt :=
    (f.cache.ascending.filter _).filter _
  have hmem : ∀ id page, (id, page) ∈ f.dirtyPages.filter (fun e => e.1 != PageId.metaPage) ↔
      f.cache.lookup id = some page ∧ page.dirty = true ∧ (id != PageId.metaPage) = true := by
    intro id page
    rw [List.mem_filter, mem_dirtyPages, and_assoc]
  refine ⟨_, ?_, h.written hl hmem hs⟩
  have hlength := congrArg List.length (h.pending_eq hl hmem)
  rw [List.length_map] at hlength
  rw [PageFile.flushPages, Action.get_bind, Action.bind_ok (writeBack_run h.faults_eq _)]
  exact congrArg (fun n => EStateM.Result.ok n _) hlength

/-- Writing the meta page is writing all changed pages under its number, of which there is at
most one. -/
theorem Shows.flushMeta (h : f.Shows p) (hs : p.Sound) :
    ∃ g, PageFile.flushMeta f = .ok () g ∧ g.Shows (p.flush (· == PageId.metaPage)) := by
  by_cases hdirty : ∃ bytes, f.cache.lookup PageId.metaPage = some ⟨bytes, true⟩
  · obtain ⟨bytes, hbytes⟩ := hdirty
    refine ⟨f.written [(PageId.metaPage, ⟨bytes, true⟩)], ?_,
      h.written (List.pairwise_singleton _ _) (fun id page => ?_) hs⟩
    · rw [PageFile.flushMeta, Action.get_bind, hbytes]
      exact writeAt_ok (f := { f with
        cache := f.cache.insert PageId.metaPage ⟨bytes, false⟩ }) h.faults_eq
    · rw [List.mem_singleton, Prod.mk.injEq, beq_iff_eq]
      constructor
      · rintro ⟨rfl, rfl⟩
        exact ⟨hbytes, rfl, rfl⟩
      · rintro ⟨hlookup, -, rfl⟩
        exact ⟨rfl, Option.some.inj (hlookup.symm.trans hbytes)⟩
  · refine ⟨f.written [], ?_, h.written List.Pairwise.nil (fun id page => ?_) hs⟩
    · rw [PageFile.flushMeta, Action.get_bind]
      cases hlookup : f.cache.lookup PageId.metaPage with
      | none => rfl
      | some page =>
        obtain ⟨bytes, dirty⟩ := page
        cases dirty with
        | false => rfl
        | true => exact absurd ⟨bytes, hlookup⟩ hdirty
    · rw [beq_iff_eq]
      constructor
      · intro hmem
        cases hmem
      · rintro ⟨hlookup, hpage, rfl⟩
        obtain ⟨bytes, dirty⟩ := page
        obtain rfl : dirty = true := hpage
        exact absurd ⟨bytes, hlookup⟩ hdirty

namespace Shows

/-! ## Forgetting -/

theorem truncate (h : f.Shows p) (count : Nat) :
    (f.truncate count).Shows (PlainFile.perform (.truncate count) p).2 := by
  refine ⟨h.faults_eq, h.pageSize_eq, h.file_eq, congrArg (min · count) h.count_eq, fun id => ?_⟩
  show Cached _ id ((f.cache.filter fun e => decide (e.1 < count)).lookup id)
  rw [f.cache.lookup_filter_key (decide <| · < count) id]
  have hlookup : (PlainFile.perform (.truncate count) p).2.overlay.lookup id =
      if decide (id < count) = true then p.overlay.lookup id else none :=
    PlainFile.lookup_pending
  by_cases hlt : decide (id < count) = true
  · rw [if_pos hlt] at hlookup ⊢
    exact (h.cached id).of_eq rfl hlookup fun _ hle => ⟨hle, rfl⟩
  · rw [if_neg hlt] at hlookup ⊢
    exact .absent hlookup

theorem discardUncommitted (h : f.Shows p) (committed : Nat) :
    (f.discardUncommitted committed).Shows (PlainFile.perform (.discard committed) p).2 := by
  rw [discardUncommitted_eq]
  refine ⟨h.faults_eq, h.pageSize_eq, h.file_eq, congrArg (min · committed) h.count_eq,
    fun id => ?_⟩
  show Cached _ id (OrderedMap.lookup (f.cache.filter _) id)
  rw [OrderedMap.lookup_filter]
  have hcached := h.cached id
  generalize f.cache.lookup id = c at hcached ⊢
  cases hcached with
  | absent => exact .absent rfl
  | clean _ hle =>
    by_cases hlt : id < committed
    · rw [Option.filter_some, if_pos (by simp [hlt])]
      exact .clean rfl hle
    · rw [Option.filter_some, if_neg (by simp [hlt])]
      exact .absent rfl
  | dirty =>
    rw [Option.filter_some, if_neg (by simp)]
    exact .absent rfl

/-- Dropping unchanged pages forgets nothing, as the file has them. -/
theorem evictClean (h : f.Shows p) : f.evictClean.Shows p := by
  refine ⟨h.faults_eq, h.pageSize_eq, h.file_eq, h.count_eq, fun id => ?_⟩
  show Cached p id ((f.cache.filter fun e => e.2.dirty).lookup id)
  rw [OrderedMap.lookup_filter]
  have hcached := h.cached id
  generalize f.cache.lookup id = c at hcached ⊢
  cases hcached with
  | absent hnone => exact .absent hnone
  | clean hnone => exact .absent hnone
  | dirty hsome => exact .dirty hsome

/-! ## Calls -/

/-- **Every call** on a page file answers as it does where there is no cache. -/
theorem perform (h : f.Shows p) (hs : p.Sound) (call : PageCall) :
    ∃ g, (PageFile.perform call).outcome f = ((PlainFile.perform call p).1, g) ∧
      g.Shows (PlainFile.perform call p).2 := by
  cases call with
  | append bytes =>
    by_cases hlen : bytes.length = p.pageSize
    · rw [PlainFile.perform_append_ok hlen, ← h.count_eq]
      have hput := h.insert_dirty f.pageCount bytes
      refine ⟨_, Action.outcome_of_ok (Action.bind_ok (append_ok (hlen.trans h.pageSize_eq.symm))),
        hput.faults_eq, hput.pageSize_eq, hput.file_eq, rfl, fun id => ?_⟩
      exact (hput.cached id).of_eq rfl rfl fun _ hle => ⟨hle, rfl⟩
    · have hlen' : bytes.length ≠ f.pageSize := by rwa [h.pageSize_eq]
      rw [PlainFile.perform_append_error hlen, ← h.pageSize_eq]
      exact ⟨f, Action.outcome_of_error (Action.bind_error (append_error hlen')), h⟩
  | read id =>
    by_cases hlt : id < p.count
    · obtain ⟨page, g, hload, hbytes, hg⟩ := h.load hs hlt
      rw [PlainFile.perform_read_ok hlt, ← hbytes]
      exact ⟨g, Action.outcome_of_ok (Action.bind_ok (Action.bind_ok hload)), hg⟩
    · rw [PlainFile.perform_read_error hlt]
      exact ⟨f, Action.outcome_of_error (Action.bind_error (Action.bind_error (h.load_error hlt))), h⟩
  | write id edit =>
    by_cases hlt : id < p.count
    · obtain ⟨page, g, hload, hbytes, hg⟩ := h.load hs hlt
      rw [PlainFile.perform_write_ok hlt, ← hbytes]
      exact ⟨_, Action.outcome_of_ok (Action.bind_ok (Action.bind_ok hload)),
        hg.insert_dirty id (edit.run page.bytes)⟩
    · rw [PlainFile.perform_write_error hlt]
      exact ⟨f, Action.outcome_of_error (Action.bind_error (Action.bind_error (h.load_error hlt))), h⟩
  | flushPages =>
    obtain ⟨g, hrun, hg⟩ := h.flushPages hs
    exact ⟨g, Action.outcome_of_ok (Action.bind_ok hrun), hg⟩
  | flushMeta =>
    obtain ⟨g, hrun, hg⟩ := h.flushMeta hs
    exact ⟨g, Action.outcome_of_ok (Action.bind_ok hrun), hg⟩
  | truncate count => exact ⟨_, rfl, h.truncate count⟩
  | discard committed => exact ⟨_, rfl, h.discardUncommitted committed⟩
  | evict => exact ⟨_, rfl, h.evictClean⟩
  | reopen =>
    refine ⟨_, rfl, ?_⟩
    rw [h.pageSize_eq, h.file_eq]
    exact ofDisk _ _ _

/-- All calls answer as they do where there is no cache. -/
theorem runs {calls : List PageCall} (h : f.Shows p) (hs : p.Sound) (hadmits : p.Admits calls) :
    ∃ g, PageFile.runs calls f = ((PlainFile.runs calls p).1, g) ∧
      g.Shows (PlainFile.runs calls p).2 := by
  induction calls generalizing f p with
  | nil => exact ⟨f, rfl, h⟩
  | cons call calls ih =>
    obtain ⟨g, hrun, hg⟩ := h.perform hs call
    obtain ⟨u, hruns, hu⟩ := ih hg (hs.perform hadmits.1) hadmits.2
    refine ⟨u, ?_, hu⟩
    show (((PageFile.perform call).outcome f).1 ::
      (PageFile.runs calls ((PageFile.perform call).outcome f).2).1,
      (PageFile.runs calls ((PageFile.perform call).outcome f).2).2) = _
    rw [hrun, hruns]
    rfl

/-- What reading a page answers. -/
theorem read_outcome (h : f.Shows p) (hs : p.Sound) (id : PageId) :
    ((PageFile.perform (.read id)).outcome f).1 =
      if id < p.count then .ok (.page (p.page id)) else .error (.pageNotFound id) := by
  obtain ⟨g, hrun, -⟩ := h.perform hs (.read id)
  rw [hrun]
  by_cases hlt : id < p.count
  · rw [PlainFile.perform_read_ok hlt, if_pos hlt]
  · rw [PlainFile.perform_read_error hlt, if_neg hlt]

/-- Flushing the pages writes exactly the changed pages but the meta page. -/
theorem flushPages_exact (h : f.Shows p) (hs : p.Sound) :
    ExactlyWritten p.pageSize p.file
      (fun id => if id = PageId.metaPage then none else p.overlay.lookup id)
      ((PageFile.perform .flushPages).outcome f).2.disk.bytes := by
  obtain ⟨g, hrun, hg⟩ := h.perform hs .flushPages
  have hpending : (p.pending (· != PageId.metaPage)).lookup =
      fun id => if id = PageId.metaPage then none else p.overlay.lookup id := by
    funext id
    rw [PlainFile.lookup_pending]
    by_cases hid : id = PageId.metaPage <;> simp [hid]
  rw [hrun, ← hpending, show g.disk.bytes = _ from hg.file_eq]
  exact hs.exactlyWritten _

/-- Page files that stand for the same one cannot be told apart. -/
theorem runs_eq {f' : PageFile} {calls : List PageCall} (h : f.Shows p) (h' : f'.Shows p)
    (hs : p.Sound) (hadmits : p.Admits calls) :
    (PageFile.runs calls f').1 = (PageFile.runs calls f).1 ∧
      (PageFile.runs calls f').2.disk.bytes = (PageFile.runs calls f).2.disk.bytes := by
  obtain ⟨g, hrun, hg⟩ := h.runs hs hadmits
  obtain ⟨g', hrun', hg'⟩ := h'.runs hs hadmits
  rw [hrun, hrun']
  exact ⟨rfl, hg'.file_eq.trans hg.file_eq.symm⟩

end Shows

/-- A new file is a file without bytes. -/
theorem create_eq_ofDisk (path : String) (size : Nat) (disk : Disk) :
    create path size disk = ofDisk path size { disk with bytes := [] } := by
  rw [create, ofDisk, List.length_nil, Nat.zero_div]

/-- **A file that is created** answers like one without bytes that has no cache, whatever stood
under its path before. -/
theorem runs_of_createAt {path : String} {status : FileStatus} {size : Nat} {f : PageFile}
    {calls : List PageCall} (hcreate : createAt path status size = .ok f)
    (hadmits : (PlainFile.opened size []).Admits calls) :
    ∃ g, PageFile.runs calls f = ((PlainFile.runs calls (PlainFile.opened size [])).1, g) ∧
      g.Shows (PlainFile.runs calls (PlainFile.opened size [])).2 := by
  have hempty : f = ofDisk path size { bytes := [] } := by
    rw [← create_eq_ofDisk path size { bytes := [] }]
    cases status <;> cases hcreate <;> rfl
  rw [hempty]
  exact (Shows.ofDisk path size []).runs (PlainFile.sound_opened size []) hadmits

/-- **The cache of a page file cannot be seen**, whatever is called on a file that holds any bytes,
as long as changes are forgotten only where all pages that stay have been written.

1. The calls answer what they answer without a cache, and leave the same file with the same number
   of pages.
2. Reading answers the changed page if there is one, and else the page in the file; a page that
   lies behind the last one is not found.
3. Flushing the pages writes exactly the changed pages except the meta page.
4. After changes are forgotten, all pages that stay are as they were written last.
5. Dropping unchanged pages from the cache changes no later answer, and no byte of the file. -/
theorem cache_transparent (path : String) (size : Nat) (file : Bytes) (calls : List PageCall)
    (hadmits : (PlainFile.opened size file).Admits calls) :
    ∃ answers g q,
      PageFile.runs calls (PageFile.ofDisk path size { bytes := file }) = (answers, g) ∧
      PlainFile.runs calls (PlainFile.opened size file) = (answers, q) ∧
      g.disk.bytes = q.file ∧ g.pageCount = q.count ∧
      (∀ id, ((PageFile.perform (.read id)).outcome g).1 =
        if id < q.count then
          .ok (.page ((q.overlay.lookup id).getD (storedPage size g.disk.bytes id)))
        else .error (.pageNotFound id)) ∧
      ExactlyWritten size g.disk.bytes
        (fun id => if id = PageId.metaPage then none else q.overlay.lookup id)
        ((PageFile.perform .flushPages).outcome g).2.disk.bytes ∧
      (∀ committed, q.Allowed (.discard committed) → ∀ id < committed, id < q.count →
        ∃ page, q.flushed id = some page ∧
          ((PageFile.perform (.read id)).outcome (g.discardUncommitted committed)).1 =
            .ok (.page page)) ∧
      ∀ later, q.Admits later →
        (PageFile.runs later g.evictClean).1 = (PageFile.runs later g).1 ∧
        (PageFile.runs later g.evictClean).2.disk.bytes =
          (PageFile.runs later g).2.disk.bytes := by
  have hopened := PlainFile.sound_opened size file
  obtain ⟨g, hrun, hg⟩ := (Shows.ofDisk path size file).runs hopened hadmits
  have hsize : (PlainFile.runs calls (PlainFile.opened size file)).2.pageSize = size :=
    PlainFile.pageSize_runs calls _
  have hs := hopened.runs hadmits
  rcases hplain : PlainFile.runs calls (PlainFile.opened size file) with ⟨answers, q⟩
  rw [hplain] at hrun hg hsize hs
  replace hg : g.Shows q := hg
  replace hs : q.Sound := hs
  obtain rfl : q.pageSize = size := hsize
  refine ⟨answers, g, q, hrun, rfl, hg.file_eq, hg.count_eq, fun id => ?_, ?_,
    fun committed hallowed id hid hlt => ?_,
    fun later hlater => hg.runs_eq hg.evictClean hs hlater⟩
  · rw [hg.read_outcome hs id, hg.file_eq]
    rfl
  · rw [hg.file_eq]
    exact hg.flushPages_exact hs
  · have hread := (hg.discardUncommitted committed).read_outcome (hs.perform hallowed) id
    obtain ⟨page, hpage⟩ := Option.isSome_iff_exists.mp (hallowed id hid hlt)
    have hlt' : id < (PlainFile.perform (.discard committed) q).2.count :=
      Nat.lt_min.mpr ⟨hlt, hid⟩
    refine ⟨page, hpage, ?_⟩
    rw [hread, if_pos hlt', PlainFile.page_of_none rfl, ← (hs.flushed_eq hpage).2]
    rfl

/-- The second page is appended over a partial one, written, changed again, and forgotten; then
it is cut off, appended anew, and read from the file. -/
def appendedTwice : List PageCall :=
  [.append [3, 3], .flushPages, .write 1 ⟨List.map (· + 1), fun _ => List.length_map _⟩, .read 1,
    .discard 2, .read 1, .truncate 1, .read 1, .append [5, 5], .evict, .read 1, .flushPages,
    .reopen, .read 1]

/-- What the calls of this run answer, where the file ends with half a page. -/
theorem cache_transparent_of_appendedTwice :
    (PlainFile.opened 2 [1, 1, 2]).Admits appendedTwice ∧
    (PageFile.runs appendedTwice (PageFile.ofDisk "pages" 2 { bytes := [1, 1, 2] })).1 =
      [.ok (.number 1), .ok (.number 1), .ok .done, .ok (.page [4, 4]), .ok .done,
        .ok (.page [3, 3]), .ok .done, .error (.pageNotFound 1), .ok (.number 1), .ok .done,
        .ok (.page [5, 5]), .ok (.number 1), .ok .done, .ok (.page [5, 5])] := by
  have hadmits : (PlainFile.opened 2 [1, 1, 2]).Admits appendedTwice := by
    refine ⟨trivial, trivial, trivial, trivial, fun id hid _ => ?_, trivial, trivial, trivial,
      trivial, trivial, trivial, trivial, trivial, trivial, trivial⟩
    have hid' : id = 0 ∨ id = 1 := by omega
    rcases hid' with rfl | rfl <;> rfl
  obtain ⟨answers, g, q, hrun, hplain, -⟩ :=
    cache_transparent "pages" 2 [1, 1, 2] appendedTwice hadmits
  refine ⟨hadmits, ?_⟩
  rw [hrun]
  exact (congrArg Prod.fst hplain).symm.trans rfl

end PageFile

end PagedTables
