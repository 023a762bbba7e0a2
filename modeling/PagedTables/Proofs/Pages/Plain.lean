/-
# Page files without a cache

What the calls of a page file do, said without a cache: there are the bytes of the file, the
pages that were changed and not written yet, and the number of pages. Beside them stands what was
written last to each page.

* `PageCall`, `PageFile.perform` : the calls, and how a page file performs them;
* `PlainFile`, `PlainFile.perform` : what they do where there is no cache;
* `exactlyWritten_patched` : writing pages to a file changes the bytes of these pages only;
* `PlainFile.Sound.perform` : every page is either changed or in the file, whatever is called.
-/
import PagedTables.Proofs.Pages.Flush

namespace PagedTables

/-! ## Calls -/

/-- A change of a page in place, which keeps its length. -/
structure PageEdit where
  /-- The bytes after the change. -/
  run : Bytes → Bytes
  /-- There are as many of them as before. -/
  length_run : ∀ page, (run page).length = page.length

/-- What can be done with a page file. -/
inductive PageCall where
  /-- Adds a page behind the last one. -/
  | append (page : Bytes)
  /-- Reads a page. -/
  | read (id : PageId)
  /-- Changes a page in place. -/
  | write (id : PageId) (edit : PageEdit)
  /-- Writes the changed pages except the meta page. -/
  | flushPages
  /-- Writes the meta page. -/
  | flushMeta
  /-- Forgets the pages from a number on. -/
  | truncate (count : Nat)
  /-- Forgets what was not written, and the pages from a number on. -/
  | discard (committed : Nat)
  /-- Drops unchanged pages from the cache. -/
  | evict
  /-- Opens the file again. -/
  | reopen

/-- What a call answers. -/
inductive PageAnswer where
  /-- That it is done. -/
  | done
  /-- A page number, or a number of pages. -/
  | number (n : Nat)
  /-- The bytes of a page. -/
  | page (bytes : Bytes)
  deriving DecidableEq, Repr

/-- What calls answer one after another, and the state that they lead to. -/
def PageCall.runs {σ : Type} (perform : PageCall → σ → Except StoreError PageAnswer × σ) :
    List PageCall → σ → List (Except StoreError PageAnswer) × σ
  | [], s => ([], s)
  | call :: calls, s =>
    let (answer, t) := perform call s
    let (answers, u) := runs perform calls t
    (answer :: answers, u)

/-- Opens the file of a page file again. -/
def PageFile.reopen : Action StoreError PageFile Unit := do
  let f ← get
  match openAt f.path (.present f.disk.bytes) f.pageSize with
  | .ok g => set g
  | .error e => throw e

/-- Performs a call on a page file. -/
def PageFile.perform : PageCall → Action StoreError PageFile PageAnswer
  | .append page => return .number (← append page)
  | .read id => return .page (← read id)
  | .write id edit => do
    change id edit.run
    return .done
  | .flushPages => return .number (← flushPages)
  | .flushMeta => do
    flushMeta
    return .done
  | .truncate count => do
    modify fun f => f.truncate count
    return .done
  | .discard committed => do
    modify fun f => f.discardUncommitted committed
    return .done
  | .evict => do
    modify PageFile.evictClean
    return .done
  | .reopen => do
    reopen
    return .done

/-- Performs calls on a page file one after another. -/
def PageFile.runs (calls : List PageCall) (f : PageFile) :
    List (Except StoreError PageAnswer) × PageFile :=
  PageCall.runs (fun call => (perform call).outcome) calls f

/-! ## Writing pages to their places -/

/-- The file with pages written to their places. -/
def patched (size : Nat) (file : Bytes) (pages : List (PageId × Bytes)) : Bytes :=
  pages.foldl (fun file e => file.overwrite (e.1 * size) e.2) file

/-- These pages were written, and nothing else: all other bytes are those of the old file, or the
zeros of a gap behind its end. -/
structure ExactlyWritten (size : Nat) (old : Bytes) (pages : PageId → Option Bytes)
    (new : Bytes) : Prop where
  stored : ∀ id page, pages id = some page →
    (id + 1) * size ≤ new.length ∧ storedPage size new id = page
  other : ∀ j < new.length, pages (j / size) = none → new[j]? = some (old[j]?.getD 0)
  length_ge : old.length ≤ new.length
  length_le : ∀ n, old.length ≤ n → (∀ id page, pages id = some page → (id + 1) * size ≤ n) →
    new.length ≤ n

section Patched

variable {size n : Nat} {id : PageId} {file page : Bytes} {pages : List (PageId × Bytes)}

theorem patched_cons (e : PageId × Bytes) :
    patched size file (e :: pages) = patched size (file.overwrite (e.1 * size) e.2) pages := rfl

/-- Writing pages does not make a file shorter. -/
theorem length_le_patched : file.length ≤ (patched size file pages).length := by
  induction pages generalizing file with
  | nil => exact Nat.le_refl _
  | cons e rest ih =>
    rw [patched_cons]
    refine Nat.le_trans ?_ ih
    rw [Bytes.length_overwrite_eq_max]
    exact Nat.le_max_left _ _

/-- Writing pages makes a file no longer than the pages reach. -/
theorem patched_length_le (hlen : ∀ e ∈ pages, e.2.length = size) (hfile : file.length ≤ n)
    (hpages : ∀ e ∈ pages, (e.1 + 1) * size ≤ n) : (patched size file pages).length ≤ n := by
  induction pages generalizing file with
  | nil => exact hfile
  | cons e rest ih =>
    rw [patched_cons]
    apply ih (fun x hx => hlen x (List.mem_cons_of_mem _ hx)) _
      fun x hx => hpages x (List.mem_cons_of_mem _ hx)
    have hpage := hpages e List.mem_cons_self
    rw [Bytes.length_overwrite_eq_max, hlen e List.mem_cons_self, ← Nat.succ_mul]
    exact Nat.max_le.mpr ⟨hfile, hpage⟩

/-- The other pages of the file stay as they were. -/
theorem storedPage_patched_of_not_mem (hlen : ∀ e ∈ pages, e.2.length = size)
    (hid : id ∉ pages.map Prod.fst) (hle : (id + 1) * size ≤ file.length) :
    storedPage size (patched size file pages) id = storedPage size file id := by
  induction pages generalizing file with
  | nil => rfl
  | cons e rest ih =>
    rw [List.map_cons, List.mem_cons, not_or] at hid
    rw [patched_cons, ih (fun x hx => hlen x (List.mem_cons_of_mem _ hx)) hid.2,
      storedPage_overwrite_of_ne hid.1 (hlen e List.mem_cons_self) hle]
    rw [Bytes.length_overwrite_eq_max]
    exact Nat.le_trans hle (Nat.le_max_left _ _)

/-- A page that was written is in the file. -/
theorem storedPage_patched_of_mem (hlen : ∀ e ∈ pages, e.2.length = size)
    (hnodup : (pages.map Prod.fst).Nodup) (hmem : (id, page) ∈ pages) :
    (id + 1) * size ≤ (patched size file pages).length ∧
      storedPage size (patched size file pages) id = page := by
  induction pages generalizing file with
  | nil => cases hmem
  | cons e rest ih =>
    obtain ⟨hnotin, hnodup'⟩ := List.nodup_cons.mp hnodup
    have hlen' : ∀ x ∈ rest, x.2.length = size := fun x hx => hlen x (List.mem_cons_of_mem _ hx)
    rcases List.mem_cons.mp hmem with rfl | hrest
    · have hpage : page.length = size := hlen _ List.mem_cons_self
      have hle : (id + 1) * size ≤ (file.overwrite (id * size) page).length := by
        rw [Bytes.length_overwrite_eq_max, hpage, Nat.succ_mul]
        exact Nat.le_max_right _ _
      rw [patched_cons]
      refine ⟨Nat.le_trans hle length_le_patched, ?_⟩
      rw [storedPage_patched_of_not_mem hlen' hnotin hle, storedPage_overwrite_self hpage]
    · exact ih hlen' hnodup' hrest

/-- The other bytes stay as they were, and those of a gap behind the old end are zero. -/
theorem getElem?_patched_of_not_mem {j : Nat} (hlen : ∀ e ∈ pages, e.2.length = size)
    (hj : j / size ∉ pages.map Prod.fst) (hlt : j < (patched size file pages).length) :
    (patched size file pages)[j]? = some (file[j]?.getD 0) := by
  induction pages generalizing file with
  | nil =>
    have hlt' : j < file.length := hlt
    show file[j]? = _
    rw [List.getElem?_eq_getElem hlt', Option.getD_some]
  | cons e rest ih =>
    rw [List.map_cons, List.mem_cons, not_or] at hj
    rw [patched_cons] at hlt ⊢
    rw [ih (fun x hx => hlen x (List.mem_cons_of_mem _ hx)) hj.2 hlt, Bytes.getElem?_overwrite,
      hlen e List.mem_cons_self]
    by_cases hbefore : j < e.1 * size
    · rw [if_pos hbefore, Option.getD_some]
    · rw [if_neg hbefore, if_neg]
      intro hin
      exact hj.1 (Nat.div_eq_of_lt_le (by omega) (by rw [Nat.succ_mul]; omega))

/-- **Writing pages** to their places writes exactly these. -/
theorem exactlyWritten_patched {pages : OrderedMap PageId Bytes}
    (hlen : ∀ {id : PageId} {page}, pages.lookup id = some page → page.length = size) :
    ExactlyWritten size file pages.lookup (patched size file pages.toList) := by
  have hlen' : ∀ e ∈ pages.toList, e.2.length = size :=
    fun e he => hlen (pages.mem_toList_iff.mp he)
  refine ⟨fun id page hpage => ?_, fun j hj hnone => ?_, length_le_patched, fun n hold hpages => ?_⟩
  · exact storedPage_patched_of_mem hlen' pages.nodup_keys (pages.mem_toList_iff.mpr hpage)
  · refine getElem?_patched_of_not_mem hlen' (fun hmem => ?_) hj
    obtain ⟨e, he, heq⟩ := List.mem_map.mp hmem
    rw [← heq, pages.mem_toList_iff.mp he] at hnone
    cases hnone
  · exact patched_length_le hlen' hold fun e he => hpages e.1 e.2 (pages.mem_toList_iff.mp he)

/-- A page that was not written stays as it was. -/
theorem ExactlyWritten.storedPage_eq {old new : Bytes} {pages : PageId → Option Bytes}
    (h : ExactlyWritten size old pages new) (hid : pages id = none)
    (hle : (id + 1) * size ≤ old.length) : storedPage size new id = storedPage size old id := by
  apply Bytes.slice_congr
  intro j hj hj'
  rw [← Nat.succ_mul] at hj'
  have hdiv : j / size = id := Nat.div_eq_of_lt_le hj hj'
  have hold : j < old.length := Nat.lt_of_lt_of_le hj' hle
  rw [h.other j (Nat.lt_of_lt_of_le hold h.length_ge) (by rw [hdiv, hid]),
    List.getElem?_eq_getElem hold, Option.getD_some]

end Patched

/-! ## The file without a cache -/

/-- A page of a file, if the file holds all of it. -/
def wholePage (size : Nat) (file : Bytes) (id : PageId) : Option Bytes :=
  if (id + 1) * size ≤ file.length then some (storedPage size file id) else none

/-- A page file without a cache. -/
structure PlainFile where
  /-- Bytes per page. -/
  pageSize : Nat
  /-- The bytes of the file. -/
  file : Bytes
  /-- The pages that were changed and not written yet. -/
  overlay : OrderedMap PageId Bytes
  /-- The number of pages. -/
  count : Nat
  /-- What was written last to each page. -/
  flushed : PageId → Option Bytes

namespace PlainFile

/-- A file that was opened; it has the pages that it holds in full. -/
def opened (size : Nat) (file : Bytes) : PlainFile :=
  ⟨size, file, ∅, file.length / size, wholePage size file⟩

/-- The bytes of a page: those it was changed to, else those in the file. -/
def page (p : PlainFile) (id : PageId) : Bytes :=
  (p.overlay.lookup id).getD (storedPage p.pageSize p.file id)

/-- Changes a page. -/
def put (p : PlainFile) (id : PageId) (page : Bytes) : PlainFile :=
  { p with overlay := p.overlay.insert id page }

/-- The changed pages that a flush writes. -/
def pending (p : PlainFile) (which : PageId → Bool) : OrderedMap PageId Bytes :=
  p.overlay.filter fun e => which e.1

/-- Writes the changed pages that are asked for. -/
def flush (p : PlainFile) (which : PageId → Bool) : PlainFile :=
  { p with
    file := patched p.pageSize p.file (p.pending which).toList
    overlay := p.pending fun id => !which id
    flushed := fun id => ((p.pending which).lookup id).or (p.flushed id) }

/-- Performs a call. -/
def perform : PageCall → PlainFile → Except StoreError PageAnswer × PlainFile
  | .append page, p =>
    if page.length = p.pageSize then
      (.ok (.number p.count), { p.put p.count page with count := p.count + 1 })
    else (.error (.wrongPageSize p.pageSize page.length), p)
  | .read id, p =>
    if id < p.count then (.ok (.page (p.page id)), p) else (.error (.pageNotFound id), p)
  | .write id edit, p =>
    if id < p.count then (.ok .done, p.put id (edit.run (p.page id)))
    else (.error (.pageNotFound id), p)
  | .flushPages, p =>
    (.ok (.number (p.pending (· != PageId.metaPage)).size), p.flush (· != PageId.metaPage))
  | .flushMeta, p => (.ok .done, p.flush (· == PageId.metaPage))
  | .truncate count, p =>
    (.ok .done, { p with overlay := p.pending (decide <| · < count), count := min p.count count })
  | .discard committed, p =>
    (.ok .done, { p with overlay := ∅, count := min p.count committed })
  | .evict, p => (.ok .done, p)
  | .reopen, p => (.ok .done, opened p.pageSize p.file)

section Perform

variable {p : PlainFile} {id : PageId} {bytes : Bytes} {edit : PageEdit}

/-- A page of the right size takes the next number. -/
theorem perform_append_ok (h : bytes.length = p.pageSize) : perform (.append bytes) p =
    (.ok (.number p.count), { p.put p.count bytes with count := p.count + 1 }) :=
  if_pos h

theorem perform_append_error (h : bytes.length ≠ p.pageSize) : perform (.append bytes) p =
    (.error (.wrongPageSize p.pageSize bytes.length), p) :=
  if_neg h

theorem perform_read_ok (h : id < p.count) :
    perform (.read id) p = (.ok (.page (p.page id)), p) :=
  if_pos h

theorem perform_read_error (h : ¬id < p.count) :
    perform (.read id) p = (.error (.pageNotFound id), p) :=
  if_neg h

theorem perform_write_ok (h : id < p.count) :
    perform (.write id edit) p = (.ok .done, p.put id (edit.run (p.page id))) :=
  if_pos h

theorem perform_write_error (h : ¬id < p.count) :
    perform (.write id edit) p = (.error (.pageNotFound id), p) :=
  if_neg h

end Perform

/-- Changes may be forgotten where all pages that stay have been written before. -/
def Allowed (p : PlainFile) : PageCall → Prop
  | .discard committed => ∀ id < committed, id < p.count → (p.flushed id).isSome
  | _ => True

/-- All calls are allowed, one after another. -/
def Admits (p : PlainFile) : List PageCall → Prop
  | [] => True
  | call :: calls => p.Allowed call ∧ (perform call p).2.Admits calls

/-- Performs calls one after another. -/
def runs (calls : List PageCall) (p : PlainFile) : List (Except StoreError PageAnswer) × PlainFile :=
  PageCall.runs perform calls p

/-! ## What every call keeps -/

/-- Every page was changed or is in the file, and the file holds what was written last. -/
structure Sound (p : PlainFile) : Prop where
  length_overlay : ∀ {id : PageId} {page}, p.overlay.lookup id = some page →
    page.length = p.pageSize
  stored_le : ∀ {id : PageId}, id < p.count → p.overlay.lookup id = none →
    (id + 1) * p.pageSize ≤ p.file.length
  flushed_eq : ∀ {id : PageId} {page}, p.flushed id = some page →
    (id + 1) * p.pageSize ≤ p.file.length ∧ storedPage p.pageSize p.file id = page

variable {p : PlainFile} {id n : Nat} {b : Bytes} {which : PageId → Bool}

/-- A page waits to be written if it was changed and is asked for. -/
theorem lookup_pending :
    (p.pending which).lookup id = if which id then p.overlay.lookup id else none :=
  p.overlay.lookup_filter_key which id

theorem lookup_pending_eq_some_iff : (p.pending which).lookup id = some b ↔
    which id = true ∧ p.overlay.lookup id = some b := by
  rw [lookup_pending]
  by_cases h : which id <;> simp [h]

/-- After a flush the pages that it did not write are left. -/
theorem lookup_flush : (p.flush which).overlay.lookup id =
    if which id then none else p.overlay.lookup id := by
  show (p.pending fun id => !which id).lookup id = _
  rw [lookup_pending]
  by_cases h : which id <;> simp [h]

/-- A changed page has its new bytes. -/
theorem page_of_lookup (h : p.overlay.lookup id = some b) : p.page id = b := by
  rw [page, h, Option.getD_some]

theorem page_of_none (h : p.overlay.lookup id = none) :
    p.page id = storedPage p.pageSize p.file id := by
  rw [page, h, Option.getD_none]

/-- A file that was opened is sound. -/
theorem sound_opened (size : Nat) (file : Bytes) : (opened size file).Sound where
  length_overlay h := by cases h
  stored_le {id} hlt _ := by
    have hdiv : id + 1 ≤ file.length / size := hlt
    exact Nat.le_trans (Nat.mul_le_mul_right size hdiv) (Nat.div_mul_le_self _ _)
  flushed_eq {id page} h := by
    have hwhole : wholePage size file id = some page := h
    rw [wholePage] at hwhole
    split at hwhole
    · next hle => exact ⟨hle, Option.some.inj hwhole⟩
    · cases hwhole

/-- No call changes the page size. -/
theorem pageSize_perform (call : PageCall) (p : PlainFile) :
    (perform call p).2.pageSize = p.pageSize := by
  cases call with
  | append | read | write =>
    rw [perform]
    split <;> rfl
  | _ => rfl

theorem pageSize_runs (calls : List PageCall) (p : PlainFile) :
    (runs calls p).2.pageSize = p.pageSize := by
  induction calls generalizing p with
  | nil => rfl
  | cons call calls ih => exact (ih _).trans (pageSize_perform call p)

namespace Sound

theorem length_page (hs : p.Sound) (hlt : id < p.count) : (p.page id).length = p.pageSize := by
  cases h : p.overlay.lookup id with
  | some b => rw [page_of_lookup h, hs.length_overlay h]
  | none => rw [page_of_none h, length_storedPage (hs.stored_le hlt h)]

/-- A flush writes exactly the changed pages that are asked for. -/
theorem exactlyWritten (hs : p.Sound) (which : PageId → Bool) :
    ExactlyWritten p.pageSize p.file (p.pending which).lookup (p.flush which).file := by
  apply exactlyWritten_patched
  intro id page hpage
  exact hs.length_overlay (lookup_pending_eq_some_iff.mp hpage).2

theorem put (hs : p.Sound) (hlen : b.length = p.pageSize) : (p.put id b).Sound where
  length_overlay {id' page} h := by
    rcases OrderedMap.lookup_insert_eq_some_iff.mp h with ⟨-, rfl⟩ | ⟨-, h⟩
    · exact hlen
    · exact hs.length_overlay h
  stored_le {id'} hlt h := by
    have hinsert : (p.overlay.insert id b).lookup id' = none := h
    by_cases heq : id' = id
    · rw [heq, OrderedMap.lookup_insert_self] at hinsert
      cases hinsert
    · rw [OrderedMap.lookup_insert_of_ne _ _ heq] at hinsert
      exact hs.stored_le hlt hinsert
  flushed_eq := hs.flushed_eq

theorem flush (hs : p.Sound) (which : PageId → Bool) : (p.flush which).Sound where
  length_overlay h := hs.length_overlay (lookup_pending_eq_some_iff.mp h).2
  stored_le {id} hlt h := by
    have hwritten := hs.exactlyWritten which
    rw [lookup_flush] at h
    cases hlookup : p.overlay.lookup id with
    | none => exact Nat.le_trans (hs.stored_le hlt hlookup) hwritten.length_ge
    | some b =>
      -- the page is not left over, so it was written
      have hwhich : which id = true := by
        by_contra hnot
        simp [hnot, hlookup] at h
      exact (hwritten.stored id b (lookup_pending_eq_some_iff.mpr ⟨hwhich, hlookup⟩)).1
  flushed_eq {id page} h := by
    have hwritten := hs.exactlyWritten which
    have hflushed : ((p.pending which).lookup id).or (p.flushed id) = some page := h
    rcases Option.or_eq_some_iff.mp hflushed with hnew | ⟨hnone, hold⟩
    · exact hwritten.stored id page hnew
    · obtain ⟨hle, hpage⟩ := hs.flushed_eq hold
      exact ⟨Nat.le_trans hle hwritten.length_ge, (hwritten.storedPage_eq hnone hle).trans hpage⟩

/-- **Every call** leaves all pages changed or in the file, as long as changes are forgotten only
where all pages that stay have been written. -/
theorem perform {call : PageCall} (hs : p.Sound) (hallowed : p.Allowed call) :
    (PlainFile.perform call p).2.Sound := by
  cases call with
  | append bytes =>
    by_cases hlen : bytes.length = p.pageSize
    · rw [perform_append_ok hlen]
      have hput : (p.put p.count bytes).Sound := hs.put hlen
      refine ⟨hput.length_overlay, fun {id} hlt h => ?_, hput.flushed_eq⟩
      -- the new page was changed
      have hne : id ≠ p.count := by
        rintro rfl
        have hself : (p.overlay.insert p.count bytes).lookup p.count = none := h
        rw [OrderedMap.lookup_insert_self] at hself
        cases hself
      exact hput.stored_le (Nat.lt_of_le_of_ne (Nat.le_of_lt_succ hlt) hne) h
    · rw [perform_append_error hlen]
      exact hs
  | read id =>
    by_cases hlt : id < p.count
    · rw [perform_read_ok hlt]
      exact hs
    · rw [perform_read_error hlt]
      exact hs
  | write id edit =>
    by_cases hlt : id < p.count
    · rw [perform_write_ok hlt]
      exact hs.put ((edit.length_run _).trans (hs.length_page hlt))
    · rw [perform_write_error hlt]
      exact hs
  | flushPages => exact hs.flush _
  | flushMeta => exact hs.flush _
  | truncate count =>
    refine ⟨fun h => hs.length_overlay (lookup_pending_eq_some_iff.mp h).2, fun {id} hlt h => ?_,
      hs.flushed_eq⟩
    have hpending : (p.pending (decide <| · < count)).lookup id = none := h
    obtain ⟨hold, hnew⟩ := Nat.lt_min.mp hlt
    rw [lookup_pending, if_pos (decide_eq_true hnew)] at hpending
    exact hs.stored_le hold hpending
  | discard committed =>
    refine ⟨nofun, fun {id} hlt _ => ?_, hs.flushed_eq⟩
    obtain ⟨hcount, hcommitted⟩ := Nat.lt_min.mp hlt
    obtain ⟨page, hpage⟩ := Option.isSome_iff_exists.mp (hallowed id hcommitted hcount)
    exact (hs.flushed_eq hpage).1
  | evict => exact hs
  | reopen => exact sound_opened _ _

/-- Calls that are allowed keep a file sound. -/
theorem runs {calls : List PageCall} (hs : p.Sound) (hadmits : p.Admits calls) :
    (PlainFile.runs calls p).2.Sound := by
  induction calls generalizing p with
  | nil => exact hs
  | cons call calls ih => exact ih (hs.perform hadmits.1) hadmits.2

end Sound

end PlainFile

end PagedTables
