/-
# Page files are lawful

A page file shows the pages in its cache, and for all others what is stored in the file.
Reading, changing and adding pages leave the file alone.

* `storedPage` : a page as a file holds it;
* `PageFile.Sound` : every page is in the cache or in the file, and unchanged pages agree with
  the file.
-/
import PagedTables.Page.File
import PagedTables.Proofs.Bytes
import PagedTables.Proofs.OrderedMap
import PagedTables.Proofs.Pages.Lawful

namespace PagedTables

/-! ## Pages of a file -/

/-- The page of a number, as the bytes of a file hold it. -/
def storedPage (size : Nat) (file : Bytes) (id : PageId) : Bytes :=
  file.slice (id * size) size

section Stored

variable {size id i : Nat} {file : Bytes}

/-- A page that is in the file in full has its size. -/
theorem length_storedPage (h : (id + 1) * size ≤ file.length) :
    (storedPage size file id).length = size := by
  apply Bytes.length_slice
  rwa [← Nat.succ_mul]

theorem length_storedPage_of_lt {n : Nat} (hlt : id < n) (h : n * size ≤ file.length) :
    (storedPage size file id).length = size :=
  length_storedPage (Nat.le_trans (Nat.mul_le_mul_right size hlt) h)

/-- The bytes of a page stand in the file from its offset on. -/
theorem getElem?_storedPage (hi : i < size) :
    (storedPage size file id)[i]? = file[id * size + i]? := by
  rw [storedPage, Bytes.getElem?_slice, if_pos hi]

end Stored

namespace PageFile

variable {f g : PageFile} {id : Nat} {p : CachedPage}

/-- The bytes of a page: those in the cache, else those in the file. -/
def view (f : PageFile) (id : PageId) : Bytes :=
  if id < f.pageCount then
    match f.cache.lookup id with
    | some p => p.bytes
    | none => storedPage f.pageSize f.disk.bytes id
  else []

/-- Every page is in the cache or in the file, and unchanged pages agree with the file. The
meta page may differ from the file, since it counts as unchanged before it is written. -/
structure Sound (f : PageFile) : Prop where
  cached_lt : ∀ {id : Nat} {p : CachedPage}, f.cache.lookup id = some p → id < f.pageCount
  length_cached : ∀ {id : Nat} {p : CachedPage}, f.cache.lookup id = some p →
    p.bytes.length = f.pageSize
  stored_le : ∀ {id : Nat}, id < f.pageCount →
    (∀ p, f.cache.lookup id = some p → p.dirty = false) →
    (id + 1) * f.pageSize ≤ f.disk.bytes.length
  clean_eq : ∀ {id : Nat} {p : CachedPage}, f.cache.lookup id = some p → p.dirty = false →
    id ≠ PageId.metaPage → p.bytes = storedPage f.pageSize f.disk.bytes id

/-- No page in the cache was changed. -/
def Clean (f : PageFile) : Prop :=
  ∀ id p, f.cache.lookup id = some p → p.dirty = false

instance : PageView PageFile where
  Rest := String × Disk
  rest f := (f.path, f.disk)
  Sound := Sound
  page := view
  Clean := Clean

/-! ## Views -/

/-- A page that is at hand shows its bytes there. -/
theorem view_cached (hlt : id < f.pageCount) (hp : f.cache.lookup id = some p) :
    f.view id = p.bytes := by
  rw [view, if_pos hlt, hp]

theorem view_uncached (hlt : id < f.pageCount) (hp : f.cache.lookup id = none) :
    f.view id = storedPage f.pageSize f.disk.bytes id := by
  rw [view, if_pos hlt, hp]

/-- An unchanged page other than the meta page is shown as the file holds it. -/
theorem Sound.view_clean (hs : f.Sound) (hlt : id < f.pageCount) (hid : id ≠ PageId.metaPage)
    (hclean : ∀ p, f.cache.lookup id = some p → p.dirty = false) :
    f.view id = storedPage f.pageSize f.disk.bytes id := by
  cases hp : f.cache.lookup id with
  | none => exact view_uncached hlt hp
  | some p =>
    rw [view_cached hlt hp]
    exact hs.clean_eq hp (hclean p hp) hid

/-- Every page shows as many bytes as a page has. -/
theorem Sound.length_view (hs : f.Sound) (hlt : id < f.pageCount) :
    (f.view id).length = f.pageSize := by
  cases hp : f.cache.lookup id with
  | none =>
    rw [view_uncached hlt hp]
    apply length_storedPage
    apply hs.stored_le hlt
    intro p hp'
    rw [hp] at hp'
    cases hp'
  | some p =>
    rw [view_cached hlt hp]
    exact hs.length_cached hp

/-! ## Putting pages into the cache -/

/-- What is at hand after a page was put there is that page or another one from before. -/
theorem lookup_insert_cases {id' : Nat} {q : CachedPage}
    (h : (f.cache.insert id p).lookup id' = some q) :
    id' = id ∧ q = p ∨ id' ≠ id ∧ f.cache.lookup id' = some q := by
  by_cases heq : id' = id
  · subst heq
    rw [OrderedMap.lookup_insert_self] at h
    exact Or.inl ⟨rfl, (Option.some.inj h).symm⟩
  · rw [OrderedMap.lookup_insert_of_ne _ _ heq] at h
    exact Or.inr ⟨heq, h⟩

/-- A page may be put into the cache if it counts as changed, or else agrees with the file. -/
theorem Sound.insert (hs : f.Sound) (hlt : id < f.pageCount) (hlen : p.bytes.length = f.pageSize)
    (hclean : p.dirty = false → (id + 1) * f.pageSize ≤ f.disk.bytes.length ∧
      (id ≠ PageId.metaPage → p.bytes = storedPage f.pageSize f.disk.bytes id)) :
    Sound { f with cache := f.cache.insert id p } where
  cached_lt := by
    intro id' q hq
    rcases lookup_insert_cases hq with ⟨rfl, -⟩ | ⟨-, hq'⟩
    · exact hlt
    · exact hs.cached_lt hq'
  length_cached := by
    intro id' q hq
    rcases lookup_insert_cases hq with ⟨-, rfl⟩ | ⟨-, hq'⟩
    · exact hlen
    · exact hs.length_cached hq'
  stored_le := by
    intro id' hlt' hclean'
    by_cases heq : id' = id
    · subst heq
      exact (hclean (hclean' p (OrderedMap.lookup_insert_self _ _ _))).1
    · apply hs.stored_le hlt'
      intro q hq
      apply hclean' q
      show (f.cache.insert id p).lookup id' = some q
      rw [OrderedMap.lookup_insert_of_ne _ _ heq, hq]
  clean_eq := by
    intro id' q hq hdirty hid
    rcases lookup_insert_cases hq with ⟨rfl, rfl⟩ | ⟨-, hq'⟩
    · exact (hclean hdirty).2 hid
    · exact hs.clean_eq hq' hdirty hid

/-- What a page shows depends on the cache, and on the file where the cache has nothing. -/
theorem view_congr (hlt : id < g.pageCount ↔ id < f.pageCount)
    (hcache : g.cache.lookup id = f.cache.lookup id)
    (hstored : id < f.pageCount → f.cache.lookup id = none →
      storedPage g.pageSize g.disk.bytes id = storedPage f.pageSize f.disk.bytes id) :
    g.view id = f.view id := by
  by_cases h : id < f.pageCount
  · cases hp : f.cache.lookup id with
    | some p => rw [view_cached h hp, view_cached (hlt.mpr h) (hcache.trans hp)]
    | none => rw [view_uncached h hp, view_uncached (hlt.mpr h) (hcache.trans hp), hstored h hp]
  · rw [view, view, if_neg h, if_neg fun h' => h (hlt.mp h')]

/-- Putting a page at hand changes what this page shows. -/
theorem view_insert (hlt : id < f.pageCount) :
    view { f with cache := f.cache.insert id p } = Function.update f.view id p.bytes := by
  funext id'
  by_cases heq : id' = id
  · subst heq
    rw [Function.update_self]
    exact view_cached hlt (OrderedMap.lookup_insert_self _ _ _)
  · rw [Function.update_of_ne heq]
    exact view_congr Iff.rfl (OrderedMap.lookup_insert_of_ne _ _ heq) fun _ _ => rfl

/-! ## Operations -/

/-- A page that is at hand is not read from the file. -/
theorem load_cached (hlt : id < f.pageCount) (hp : f.cache.lookup id = some p) :
    load id f = .ok p f := by
  rw [load, Action.get_bind, if_pos hlt, hp]
  rfl

/-- A page that is not in the cache is read from the file, and is in the cache afterwards. -/
theorem load_uncached (hlt : id < f.pageCount) (hp : f.cache.lookup id = none)
    (hle : (id + 1) * f.pageSize ≤ f.disk.bytes.length) :
    load id f = .ok ⟨storedPage f.pageSize f.disk.bytes id, false⟩
      { f with cache := f.cache.insert id ⟨storedPage f.pageSize f.disk.bytes id, false⟩ } := by
  have hread : onDisk (Disk.read (id * f.pageSize) f.pageSize) f =
      .ok (storedPage f.pageSize f.disk.bytes id) f := by
    rw [onDisk]
    apply Action.within_ok (t := f.disk)
    rw [Disk.read, Action.get_bind, if_pos (by rwa [← Nat.succ_mul])]
    rfl
  rw [load, Action.get_bind, if_pos hlt, hp]
  show (onDisk (Disk.read (id * f.pageSize) f.pageSize) >>= fun bytes =>
    (modify fun f => { f with cache := f.cache.insert id ⟨bytes, false⟩ }) >>= fun _ =>
      pure (⟨bytes, false⟩ : CachedPage)) f = _
  rw [Action.bind_ok hread, Action.modify_bind]
  rfl

/-- Loading a page answers it and shows no page differently. -/
theorem load_ok (hs : f.Sound) (hlt : id < f.pageCount) :
    ∃ p g, load id f = .ok p g ∧ p.bytes = f.view id ∧
      PageView.Becomes f g f.pageCount f.view ∧ (f.Clean → g.Clean) ∧
      ∀ id' : Nat, id' ≠ id → g.cache.lookup id' = f.cache.lookup id' := by
  cases hp : f.cache.lookup id with
  | some p =>
    exact ⟨p, f, load_cached hlt hp, (view_cached hlt hp).symm, ⟨hs, rfl, rfl, rfl, rfl⟩,
      fun hc => hc, fun _ _ => rfl⟩
  | none =>
    have hle : (id + 1) * f.pageSize ≤ f.disk.bytes.length := by
      apply hs.stored_le hlt
      intro p hp'
      rw [hp] at hp'
      cases hp'
    have hsound := hs.insert (p := ⟨storedPage f.pageSize f.disk.bytes id, false⟩) hlt
      (length_storedPage hle) (fun _ => ⟨hle, fun _ => rfl⟩)
    refine ⟨⟨storedPage f.pageSize f.disk.bytes id, false⟩, _, load_uncached hlt hp hle,
      (view_uncached hlt hp).symm, ⟨hsound, rfl, rfl, ?_, rfl⟩, ?_,
      fun id' hne => OrderedMap.lookup_insert_of_ne _ _ hne⟩
    · rw [← view_uncached hlt hp]
      show view { f with cache := f.cache.insert id _ } = _
      rw [view_insert hlt]
      exact Function.update_eq_self id f.view
    · intro hclean id' q hq
      rcases lookup_insert_cases hq with ⟨-, rfl⟩ | ⟨-, hq'⟩
      · rfl
      · exact hclean id' q hq'

/-- A page that the file does not have is not loaded. -/
theorem load_missing (hle : f.pageCount ≤ id) : load id f = .error (.pageNotFound id) f := by
  rw [load, Action.get_bind, if_neg (Nat.not_lt.mpr hle)]
  rfl

/-- A page of the right size is appended, and is changed until it is written. -/
theorem append_ok {page : Bytes} (h : page.length = f.pageSize) :
    append page f = .ok f.pageCount { f with
      pageCount := f.pageCount + 1
      cache := f.cache.insert f.pageCount ⟨page, true⟩ } := by
  rw [append, Action.get_bind, if_pos h]
  rfl

/-- A page of the wrong size is refused. -/
theorem append_error {page : Bytes} (h : page.length ≠ f.pageSize) :
    append page f = .error (.wrongPageSize f.pageSize page.length) f := by
  rw [append, Action.get_bind, if_neg h]
  rfl

instance : LawfulPageStore PageFile where
  length_page hs hlt := Sound.length_view hs hlt
  read_ok {f id} hs hlt := by
    obtain ⟨p, g, hload, hbytes, hbec, hclean, -⟩ := load_ok hs hlt
    refine ⟨g, ?_, hbec, hclean⟩
    show PageFile.read id f = _
    rw [PageFile.read, Action.bind_ok hload]
    show EStateM.Result.ok p.bytes g = _
    rw [hbytes]
    rfl
  modify_ok {f id} change hs hlt hlen := by
    obtain ⟨p, g, hload, hbytes, hbec, -⟩ := load_ok hs hlt
    have hlt' : id < g.pageCount := by
      rw [show g.pageCount = f.pageCount from hbec.pageCount_eq]
      exact hlt
    have hsound : g.Sound := hbec.sound
    refine ⟨{ g with cache := g.cache.insert id ⟨change p.bytes, true⟩ }, ?_, ?_⟩
    · show PageFile.change id change f = _
      rw [PageFile.change, Action.bind_ok hload]
      rfl
    · refine ⟨hsound.insert hlt' ?_ (fun hclean => by cases hclean), hbec.pageSize_eq,
        hbec.pageCount_eq, ?_, hbec.rest_eq⟩
      · show (change p.bytes).length = g.pageSize
        rw [hbytes, show g.pageSize = f.pageSize from hbec.pageSize_eq]
        exact hlen
      · show view { g with cache := g.cache.insert id _ } = _
        rw [view_insert hlt', show g.view = f.view from hbec.page_eq, hbytes]
        rfl
  append_ok {f bytes} hs hlen := by
    have hlen' : bytes.length = f.pageSize := hlen
    refine ⟨{ f with
      pageCount := f.pageCount + 1
      cache := f.cache.insert f.pageCount ⟨bytes, true⟩ }, append_ok hlen', ?_, rfl, rfl, ?_, rfl⟩
    · exact {
        cached_lt := by
          intro id p hp
          rcases lookup_insert_cases hp with ⟨rfl, -⟩ | ⟨-, hp'⟩
          · exact Nat.lt_succ_self _
          · exact Nat.lt_succ_of_lt (hs.cached_lt hp')
        length_cached := by
          intro id p hp
          rcases lookup_insert_cases hp with ⟨-, rfl⟩ | ⟨-, hp'⟩
          · exact hlen'
          · exact hs.length_cached hp'
        stored_le := by
          intro id hlt hclean
          by_cases heq : id = f.pageCount
          -- the new page is not in the file yet, but it counts as changed
          · subst heq
            cases hclean _ (OrderedMap.lookup_insert_self _ _ _)
          · have hlt' : id < f.pageCount + 1 := hlt
            apply hs.stored_le (by omega)
            intro p hp
            apply hclean p
            show (f.cache.insert f.pageCount _).lookup id = some p
            rw [OrderedMap.lookup_insert_of_ne _ _ heq, hp]
        clean_eq := by
          intro id p hp hdirty hid
          rcases lookup_insert_cases hp with ⟨-, rfl⟩ | ⟨-, hp'⟩
          · cases hdirty
          · exact hs.clean_eq hp' hdirty hid }
    · funext id
      by_cases heq : id = f.pageCount
      · subst heq
        rw [show PageStore.pageCount f = f.pageCount from rfl, Function.update_self]
        exact view_cached (f := { f with
          pageCount := f.pageCount + 1
          cache := f.cache.insert f.pageCount ⟨bytes, true⟩ }) (Nat.lt_succ_self f.pageCount)
          (OrderedMap.lookup_insert_self f.cache f.pageCount ⟨bytes, true⟩)
      · have hlt_iff : id < f.pageCount + 1 ↔ id < f.pageCount := by
          rw [Nat.lt_succ_iff_lt_or_eq]
          exact or_iff_left heq
        rw [show PageStore.pageCount f = f.pageCount from rfl, Function.update_of_ne heq]
        exact view_congr hlt_iff (OrderedMap.lookup_insert_of_ne _ _ heq) fun _ _ => rfl

instance : BoundedPageStore PageFile where
  read_missing hle := Action.bind_error (load_missing hle)

end PageFile

end PagedTables
