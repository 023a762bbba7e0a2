/-
# Page files in any state

What the operations of a page file do even where others have changed the file under it, or where
the file can no longer be read or written: only adding a page changes the number of pages,
reading changes no page, and writing back leaves no changed page behind if it succeeds.

* `PageFile.SameCount`, `PageFile.Loads` : between the states before and after an operation;
* `PageFile.loads_read`, `PageFile.sameCount_flushPages` : operations that keep them;
* `PageFile.CleanBehindMeta` : after writing back, only the meta page may be left changed.
-/
import PagedTables.Proofs.Action
import PagedTables.Proofs.Pages.Flush

namespace PagedTables

open PagedTables.Action

namespace PageFile

variable {α : Type} {f g k : PageFile} {id : Nat} {p : CachedPage}

/-! ## Between two states -/

/-- Only the file under the pages may differ. -/
def SamePages (f g : PageFile) : Prop :=
  g = { f with disk := g.disk }

/-- There are as many pages as before. -/
def SameCount (f g : PageFile) : Prop :=
  g.pageCount = f.pageCount

/-- At most the cache differs, and no page in it was changed. -/
structure Loads (f g : PageFile) : Prop where
  rest_eq : g = { f with cache := g.cache }
  unchanged : ∀ (id : Nat) p, g.cache.lookup id = some p → p.dirty = true →
    f.cache.lookup id = some p
  sound : f.Sound → g.Sound

instance : Std.Refl SameCount :=
  ⟨fun _ => rfl⟩

instance : Trans SameCount SameCount SameCount :=
  ⟨fun hfg hgk => hgk.trans hfg⟩

instance : Std.Refl Loads :=
  ⟨fun _ => ⟨rfl, fun _ _ hp _ => hp, fun hs => hs⟩⟩

theorem Loads.trans (hfg : f.Loads g) (hgk : g.Loads k) : f.Loads k where
  rest_eq := by
    rw [hgk.rest_eq, hfg.rest_eq]
  unchanged id p hp hdirty := hfg.unchanged id p (hgk.unchanged id p hp hdirty) hdirty
  sound hs := hgk.sound (hfg.sound hs)

instance : Trans Loads Loads Loads :=
  ⟨Loads.trans⟩

theorem SamePages.sameCount (h : f.SamePages g) : f.SameCount g := by
  rw [h]
  rfl

theorem SamePages.cache_eq (h : f.SamePages g) : g.cache = f.cache := by
  rw [h]

theorem Loads.sameCount (h : f.Loads g) : f.SameCount g := by
  rw [h.rest_eq]
  rfl

/-- Loading leaves a file without changed pages so. -/
theorem Loads.clean (h : f.Loads g) (hc : f.Clean) : g.Clean := by
  intro id p hp
  by_contra hdirty
  rw [Bool.not_eq_false] at hdirty
  rw [hc id p (h.unchanged id p hp hdirty)] at hdirty
  cases hdirty

/-! ## Operations -/

/-- An action of the disk leaves the pages in memory alone. -/
theorem samePages_onDisk (act : Action StoreError Disk α) : Keeps SamePages (onDisk act) f :=
  Keeps.part (T := fun _ _ => True) trivial fun _ _ => rfl

theorem samePages_sync : Keeps SamePages sync f :=
  samePages_onDisk _

theorem samePages_writeAt (id : PageId) (bytes : Bytes) : Keeps SamePages (writeAt id bytes) f :=
  .read (samePages_onDisk _)

/-- Loading a page fails without effect, or finds it in the cache or in the file. -/
theorem load_cases (id : Nat) (f : PageFile) :
    (∃ e, load id f = .error e f) ∨ (∃ p, load id f = .ok p f) ∨
    id < f.pageCount ∧ (id + 1) * f.pageSize ≤ f.disk.bytes.length ∧
      load id f = .ok ⟨storedPage f.pageSize f.disk.bytes id, false⟩
        { f with cache := f.cache.insert id ⟨storedPage f.pageSize f.disk.bytes id, false⟩ } := by
  rw [load, get_bind]
  by_cases hlt : id < f.pageCount
  · rw [if_pos hlt]
    cases hp : f.cache.lookup id with
    | some p => exact Or.inr (Or.inl ⟨p, rfl⟩)
    | none =>
      by_cases hle : id * f.pageSize + f.pageSize ≤ f.disk.bytes.length
      · have hread : onDisk (Disk.read (id * f.pageSize) f.pageSize) f =
            .ok (storedPage f.pageSize f.disk.bytes id) f := by
          apply within_ok (t := f.disk)
          rw [Disk.read, get_bind, if_pos hle]
          rfl
        exact Or.inr (Or.inr ⟨hlt, by rwa [Nat.succ_mul], (bind_ok hread).trans rfl⟩)
      · have hread : onDisk (Disk.read (id * f.pageSize) f.pageSize) f =
            .error (.io .shortRead) f := by
          apply within_error (t := f.disk)
          rw [Disk.read, get_bind, if_neg hle]
          rfl
        exact Or.inl ⟨_, bind_error hread⟩
  · rw [if_neg hlt]
    exact Or.inl ⟨_, rfl⟩

/-- Only a page that is there can be loaded. -/
theorem lt_of_load_ok (h : load id f = .ok p g) : id < f.pageCount := by
  rw [load, get_bind] at h
  by_cases hlt : id < f.pageCount
  · exact hlt
  · rw [if_neg hlt] at h
    cases h

/-- Fetching a page changes nothing but what is at hand. -/
theorem loads_load (id : PageId) : Keeps Loads (load id) f := by
  rcases load_cases id f with ⟨e, hrun⟩ | ⟨p, hrun⟩ | ⟨hlt, hle, hrun⟩
  · exact .of_error hrun (Std.Refl.refl f)
  · exact .of_ok hrun (Std.Refl.refl f)
  · refine .of_ok hrun ⟨rfl, fun id' q hq hdirty => ?_, fun hs => ?_⟩
    · rcases lookup_insert_cases hq with ⟨-, rfl⟩ | ⟨-, hq'⟩
      · cases hdirty
      · exact hq'
    · exact hs.insert hlt (length_storedPage hle) fun _ => ⟨hle, fun _ => rfl⟩

theorem loads_read (id : PageId) : Keeps Loads (read id) f :=
  (loads_load id).bind fun _ _ _ => .answer _

theorem sameCount_change (id : PageId) (edit : Bytes → Bytes) :
    Keeps SameCount (change id edit) f :=
  ((loads_load id).mono fun _ h => h.sameCount).bind fun _ _ _ => .change (by rfl)

/-- Only a page of the file is changed. -/
theorem lt_of_change_ok {edit : Bytes → Bytes} (h : change id edit f = .ok () g) :
    id < f.pageCount := by
  obtain ⟨page, k, hload, -⟩ := exists_of_bind_ok h
  exact lt_of_load_ok hload

theorem sameCount_markClean (id : PageId) (bytes : Bytes) :
    Keeps SameCount (markClean id bytes) f :=
  .change (by rfl)

/-- Writing pages back adds none. -/
theorem sameCount_writeBack (l : List (PageId × CachedPage)) :
    Keeps SameCount (writeBack l) f := by
  induction l generalizing f with
  | nil => exact .answer _
  | cons x rest ih =>
    refine ((samePages_writeAt x.1 x.2.bytes).mono fun _ h => h.sameCount).bind fun _ g _ => ?_
    exact (sameCount_markClean x.1 x.2.bytes).bind fun _ _ _ => ih

theorem sameCount_flushPages : Keeps SameCount flushPages f :=
  .read ((sameCount_writeBack _).bind fun _ _ _ => .answer _)

theorem sameCount_flushMeta : Keeps SameCount flushMeta f := by
  refine .read ?_
  split
  · refine (sameCount_markClean _ _).bind fun _ _ _ => ?_
    exact (samePages_writeAt _ _).mono fun _ h => h.sameCount
  · exact .answer _

/-- Adding a page fails without effect, or adds one page. -/
theorem append_cases (page : Bytes) (f : PageFile) : (∃ e, append page f = .error e f) ∨
    ∃ g, append page f = .ok f.pageCount g ∧ g.pageCount = f.pageCount + 1 := by
  unfold append
  rw [Action.get_bind]
  by_cases hlen : page.length = f.pageSize
  · rw [if_pos hlen]
    exact Or.inr ⟨_, rfl, rfl⟩
  · rw [if_neg hlen]
    exact Or.inl ⟨_, rfl⟩

/-! ## Pages that stay changed -/

/-- There are no changed pages to write exactly if no page at hand was changed. -/
theorem dirtyPages_eq_nil : f.dirtyPages = [] ↔ f.Clean := by
  rw [List.eq_nil_iff_forall_not_mem]
  constructor
  · intro h id p hp
    by_contra hdirty
    rw [Bool.not_eq_false] at hdirty
    exact h (id, p) (mem_dirtyPages.mpr ⟨hp, hdirty⟩)
  · intro h e he
    obtain ⟨hp, hdirty⟩ := mem_dirtyPages.mp he
    rw [h e.1 e.2 hp] at hdirty
    cases hdirty

/-- No page but the meta page was changed. -/
def CleanBehindMeta (f : PageFile) : Prop :=
  ∀ (id : Nat) p, f.cache.lookup id = some p → p.dirty = true → id = PageId.metaPage

/-- A page that is changed after writing back was so before, and was not written. -/
theorem unwritten_of_writeBack {l : List (PageId × CachedPage)} (h : writeBack l f = .ok () g)
    (hp : g.cache.lookup id = some p) (hdirty : p.dirty = true) :
    f.cache.lookup id = some p ∧ id ∉ l.map Prod.fst := by
  induction l generalizing f with
  | nil =>
    injection h with _ hfg
    rw [hfg]
    exact ⟨hp, List.not_mem_nil⟩
  | cons x rest ih =>
    obtain ⟨_, k, hwrite, hrest⟩ := exists_of_bind_ok h
    have hcache := ((samePages_writeAt x.1 x.2.bytes).ok hwrite).cache_eq
    obtain ⟨hlookup, hnotin⟩ := ih hrest
    rcases lookup_insert_cases (f := k) hlookup with ⟨-, rfl⟩ | ⟨hne, hlookup'⟩
    · cases hdirty
    · rw [hcache] at hlookup'
      exact ⟨hlookup', List.not_mem_cons_of_ne_of_not_mem hne hnotin⟩

/-- Once all changed pages are written, at most the meta page is changed. -/
theorem cleanBehindMeta_of_flushPages {n : Nat} (h : flushPages f = .ok n g) :
    g.CleanBehindMeta := by
  intro id p hp hdirty
  rw [flushPages, get_bind] at h
  obtain ⟨_, k, hback, hk⟩ := exists_of_bind_ok h
  injection hk with _ hkg
  rw [hkg] at hback
  obtain ⟨hlookup, hnotin⟩ := unwritten_of_writeBack hback hp hdirty
  by_contra hid
  apply hnotin
  refine List.mem_map.mpr ⟨(id, p), ?_, rfl⟩
  rw [List.mem_filter, mem_dirtyPages]
  exact ⟨⟨hlookup, hdirty⟩, bne_iff_ne.mpr hid⟩

theorem CleanBehindMeta.of_cache_eq (hf : f.CleanBehindMeta) (hcache : g.cache = f.cache) :
    g.CleanBehindMeta :=
  fun id p hp => hf id p (hcache ▸ hp)

/-- The meta page may be changed. -/
theorem CleanBehindMeta.change {edit : Bytes → Bytes} (hf : f.CleanBehindMeta)
    (h : change PageId.metaPage edit f = .ok () g) : g.CleanBehindMeta := by
  obtain ⟨page, k, hload, hk⟩ := exists_of_bind_ok h
  injection hk with _ hkg
  intro id p hp hdirty
  rw [← hkg] at hp
  rcases lookup_insert_cases (f := k) hp with ⟨hid, -⟩ | ⟨-, hp'⟩
  · exact hid
  · exact hf id p (((loads_load PageId.metaPage).ok hload).unchanged id p hp' hdirty) hdirty

/-- The meta page is written if it was changed. -/
theorem flushMeta_cases (h : flushMeta f = .ok () g) :
    (∃ bytes, g.cache = f.cache.insert PageId.metaPage ⟨bytes, false⟩) ∨
    g = f ∧ ∀ p, f.cache.lookup PageId.metaPage = some p → p.dirty = false := by
  rw [flushMeta, get_bind] at h
  cases hmeta : f.cache.lookup PageId.metaPage with
  | none =>
    rw [hmeta] at h
    injection h with _ hfg
    refine Or.inr ⟨hfg.symm, fun p hp => ?_⟩
    cases hp
  | some p =>
    obtain ⟨bytes, dirty⟩ := p
    rw [hmeta] at h
    cases dirty with
    | false =>
      injection h with _ hfg
      exact Or.inr ⟨hfg.symm, fun p hp => by rw [← Option.some.inj hp]⟩
    | true => exact Or.inl ⟨bytes, ((samePages_writeAt PageId.metaPage bytes).ok h).cache_eq⟩

/-- Once the meta page is written too, no page is changed. -/
theorem CleanBehindMeta.flushMeta (hf : f.CleanBehindMeta) (h : flushMeta f = .ok () g) :
    g.Clean := by
  intro id p hp
  by_contra hdirty
  rw [Bool.not_eq_false] at hdirty
  rcases flushMeta_cases h with ⟨bytes, hcache⟩ | ⟨rfl, hmeta⟩
  · rw [hcache] at hp
    rcases lookup_insert_cases (f := f) hp with ⟨-, rfl⟩ | ⟨hne, hp'⟩
    · cases hdirty
    · exact hne (hf id p hp' hdirty)
  · obtain rfl := hf id p hp hdirty
    rw [hmeta p hp] at hdirty
    cases hdirty

end PageFile

end PagedTables
