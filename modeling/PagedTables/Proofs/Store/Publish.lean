/-
# Publishing

The part of a commit that writes: all changed pages, then the meta page. A fault stops it
anywhere, and leaves a file on which the changed pages are written in part.

* `DurableStore.Writes` : an action that only writes, and fails only at a fault;
* `DurableStore.publishPages_writes` : what the file holds when everything is written.
-/
import PagedTables.Proofs.Store.Checkpoint

namespace PagedTables

namespace DurableStore

variable {α β : Type} {s : DurableStore} {g : PageFile}

/-! ## Actions that write -/

/-- The action does nothing but write pages, and fails only at a fault. In the end `post` holds
of the pages, or `stuck` if it has failed. -/
def Writes (act : Action StoreError DurableStore α) (s : DurableStore)
    (post stuck : PageFile → Prop) : Prop :=
  ∃ g, s.pages.Written g ∧
    ((∃ a, act s = .ok a { s with pages := g } ∧ post g) ∨
      ∃ e, act s = .error e { s with pages := g } ∧ s.pages.disk.faults ≠ [] ∧ stuck g)

namespace Writes

variable {act : Action StoreError DurableStore α} {rest : α → Action StoreError DurableStore β}
variable {post post' stuck stuck' : PageFile → Prop}

/-- One action that writes after another. -/
theorem bind (h : Writes act s post stuck')
    (hrest : ∀ a g, s.pages.Written g → post g →
      Writes (rest a) { s with pages := g } post' stuck') :
    Writes (act >>= rest) s post' stuck' := by
  obtain ⟨g, hg, ⟨a, hrun, hpost⟩ | ⟨e, hrun, hfaults, hstuck⟩⟩ := h
  · obtain ⟨k, hk, hout⟩ := hrest a g hg hpost
    refine ⟨k, hg.trans hk, ?_⟩
    rcases hout with ⟨b, hrun', hpost'⟩ | ⟨e, hrun', hfaults, hstuck⟩
    · exact Or.inl ⟨b, (Action.bind_ok hrun).trans hrun', hpost'⟩
    · exact Or.inr ⟨e, (Action.bind_ok hrun).trans hrun', fun h => hfaults (hg.faults_nil h),
        hstuck⟩
  · exact ⟨g, hg, Or.inr ⟨e, Action.bind_error hrun, hfaults, hstuck⟩⟩

theorem mono (h : Writes act s post stuck) (hpost : ∀ g, s.pages.Written g → post g → post' g)
    (hstuck : ∀ g, s.pages.Written g → stuck g → stuck' g) : Writes act s post' stuck' := by
  obtain ⟨g, hg, ⟨a, hrun, hp⟩ | ⟨e, hrun, hfaults, hs⟩⟩ := h
  · exact ⟨g, hg, Or.inl ⟨a, hrun, hpost g hg hp⟩⟩
  · exact ⟨g, hg, Or.inr ⟨e, hrun, hfaults, hstuck g hg hs⟩⟩

theorem mono_stuck (h : Writes act s post stuck)
    (hstuck : ∀ g, s.pages.Written g → stuck g → stuck' g) : Writes act s post stuck' :=
  h.mono (fun _ _ hp => hp) hstuck

end Writes

theorem onPages_ok {act : Action StoreError PageFile α} {a : α} (h : act s.pages = .ok a g) :
    onPages act s = .ok a { s with pages := g } :=
  Action.within_ok h

theorem onPages_error {act : Action StoreError PageFile α} {e : StoreError}
    (h : act s.pages = .error e g) : onPages act s = .error e { s with pages := g } :=
  Action.within_error h

/-! ## The steps -/

/-- Flushing the pages leaves the meta page of the file. -/
theorem flushPages_writes (hs : s.pages.Sound) :
    Writes (onPages PageFile.flushPages) s
      (fun g => s.pages.SameMeta g ∧ ∀ (id : Nat) p, id ≠ PageId.metaPage →
        g.cache.lookup id = some p → p.dirty = false) s.pages.SameMeta := by
  obtain ⟨g, hg, ⟨n, hrun, hclean⟩ | ⟨e, hrun, hfaults⟩⟩ := PageFile.flushPages_outcome hs
  · exact ⟨g, hg.toWritten, Or.inl ⟨n, onPages_ok hrun, hg.sameMeta, hclean⟩⟩
  · exact ⟨g, hg.toWritten, Or.inr ⟨e, onPages_error hrun, hfaults, hg.sameMeta⟩⟩

/-- Waiting for stable storage writes nothing. -/
theorem syncIfAsked_writes (hs : s.pages.Sound) :
    Writes syncIfAsked s
      (fun g => g.cache = s.pages.cache ∧ g.disk.bytes = s.pages.disk.bytes)
      (fun g => g.cache = s.pages.cache ∧ g.disk.bytes = s.pages.disk.bytes) := by
  unfold syncIfAsked
  by_cases hsync : s.options.syncOnCommit = true
  · obtain ⟨g, hg, hcache, hbytes, hrun⟩ := PageFile.sync_outcome hs
    refine ⟨g, hg, ?_⟩
    rw [Action.get_bind, if_pos hsync]
    rcases hrun with hrun | ⟨e, hrun, hfaults⟩
    · exact Or.inl ⟨(), onPages_ok hrun, hcache, hbytes⟩
    · exact Or.inr ⟨e, onPages_error hrun, hfaults, hcache, hbytes⟩
  · refine ⟨s.pages, PageFile.Written.refl hs, Or.inl ⟨(), ?_, rfl, rfl⟩⟩
    rw [Action.get_bind, if_neg hsync]
    rfl

/-- Changing the meta page in the cache does not fail. -/
theorem change_meta_writes {stuck : PageFile → Prop} (description : MetaPage)
    (hs : s.pages.Sound) (hpos : 0 < s.pages.pageCount)
    (hsize : MetaPage.size ≤ s.pages.pageSize) :
    Writes (onPages (PageFile.change PageId.metaPage description.encode)) s (fun g =>
      g.disk = s.pages.disk ∧
      g.cache.lookup PageId.metaPage =
        some ⟨description.encode (s.pages.view PageId.metaPage), true⟩ ∧
      ∀ id : Nat, id ≠ PageId.metaPage →
        g.cache.lookup id = s.pages.cache.lookup id) stuck := by
  have hlen := hs.length_view hpos
  obtain ⟨g, hrun, hg, hpost⟩ := PageFile.change_meta_ok description.encode hs hpos
    ((description.length_encode (hlen ▸ hsize)).trans hlen)
  exact ⟨g, hg, Or.inl ⟨(), onPages_ok hrun, hpost⟩⟩

/-- Flushing the meta page writes it in full or, at a fault, perhaps not at all. -/
theorem flushMeta_writes {p : CachedPage} (hs : s.pages.Sound)
    (hp : s.pages.cache.lookup PageId.metaPage = some p) (hdirty : p.dirty = true)
    (hle : s.pages.pageSize ≤ s.pages.disk.bytes.length) :
    Writes (onPages PageFile.flushMeta) s
      (fun g => g.cache = s.pages.cache.insert PageId.metaPage ⟨p.bytes, false⟩ ∧
        g.disk.bytes = s.pages.disk.bytes.overwrite 0 p.bytes)
      (fun g => g.cache = s.pages.cache.insert PageId.metaPage ⟨p.bytes, false⟩ ∧
        (g.disk.bytes = s.pages.disk.bytes ∨
          g.disk.bytes = s.pages.disk.bytes.overwrite 0 p.bytes)) := by
  obtain ⟨g, hg, hcache, ⟨hrun, hbytes⟩ | ⟨e, hrun, hfaults, hbytes⟩⟩ :=
    PageFile.flushMeta_outcome hs hp hdirty hle
  · exact ⟨g, hg, Or.inl ⟨(), onPages_ok hrun, hcache, hbytes⟩⟩
  · exact ⟨g, hg, Or.inr ⟨e, onPages_error hrun, hfaults, hcache, hbytes⟩⟩

/-- All changed pages are written, then the meta page. -/
def publishPages (description : MetaPage) : Action StoreError DurableStore Unit := do
  let _ ← onPages PageFile.flushPages
  syncIfAsked
  onPages (PageFile.change PageId.metaPage description.encode)
  onPages PageFile.flushMeta
  syncIfAsked

/-- Publishing writes the pages, and then moves the watermark up. -/
theorem publish_eq (head : PageId) : publish head = (do
    let description := (← get).metaPage head
    publishPages description
    modify fun s => { s with
      committedPages := description.pageCount.toNat
      free := s.free.raiseWatermark
      pages := s.pages.evictClean }) := by
  funext s
  simp only [publish, publishPages, bind_assoc]

section Run

variable {head : PageId} {f : PageFile}

/-- Publishing ends with all items of the free list below the watermark. -/
theorem publish_ok (hcount : s.pages.pageCount < 2 ^ 64)
    (hrun : publishPages (s.metaPage head) s = .ok () { s with pages := f }) :
    publish head s = .ok () { s with
      pages := f.evictClean
      free := s.free.raiseWatermark
      committedPages := s.pages.pageCount } := by
  have hpages : (UInt64.ofNat s.pages.pageCount).toNat = s.pages.pageCount :=
    UInt64.toNat_ofNat_of_lt' hcount
  rw [publish_eq, Action.get_bind, Action.bind_ok hrun]
  show EStateM.Result.ok () { s with
    pages := f.evictClean
    free := s.free.raiseWatermark
    committedPages := (UInt64.ofNat s.pages.pageCount).toNat } = _
  rw [hpages]

/-- Publishing fails where writing the pages does. -/
theorem publish_error {e : StoreError}
    (hrun : publishPages (s.metaPage head) s = .error e { s with pages := f }) :
    publish head s = .error e { s with pages := f } := by
  rw [publish_eq, Action.get_bind]
  exact Action.bind_error hrun

end Run

/-- No page is changed any more, and the file starts with a meta page. -/
structure Sealed (g : PageFile) (description : MetaPage) : Prop where
  clean : g.Clean
  meta_eq : g.disk.bytes.take MetaPage.size = description.sealed

/-- A sealed file is so with the same pages at hand and the same bytes. -/
theorem Sealed.of_eq {k : PageFile} {description : MetaPage} (h : Sealed g description)
    (hcache : k.cache = g.cache) (hbytes : k.disk.bytes = g.disk.bytes) :
    Sealed k description := by
  refine ⟨fun id p hp => ?_, hbytes ▸ h.meta_eq⟩
  rw [hcache] at hp
  exact h.clean id p hp

/-- Once the meta page is written after all others, everything is. -/
theorem Sealed.of_overwrite {k : PageFile} {description : MetaPage} {page : Bytes}
    (hclean : ∀ (id : Nat) p, id ≠ PageId.metaPage → g.cache.lookup id = some p →
      p.dirty = false) (hsize : MetaPage.size ≤ page.length)
    (hcache : k.cache = g.cache.insert PageId.metaPage ⟨description.encode page, false⟩)
    (hbytes : k.disk.bytes = g.disk.bytes.overwrite 0 (description.encode page)) :
    Sealed k description where
  clean := by
    intro id p hp
    rw [hcache] at hp
    rcases PageFile.lookup_insert_cases (f := g) hp with ⟨-, rfl⟩ | ⟨hid, hp'⟩
    · rfl
    · exact hclean id p hid hp'
  meta_eq := by
    rw [hbytes, Bytes.take_overwrite]
    · exact MetaPage.take_encode
    · rw [description.length_encode hsize]
      exact hsize

/-- **Publishing**: in the end no page is changed any more, and the file starts with the meta
page. A fault comes before the meta page is written, or after everything is. -/
theorem publishPages_writes (description : MetaPage) (hs : s.pages.Sound)
    (hcount : 2 ≤ s.pages.pageCount) (hsize : MetaPage.size ≤ s.pages.pageSize) :
    Writes (publishPages description) s (fun g => Sealed g description)
      (fun g => s.pages.SameMeta g ∨ Sealed g description) := by
  unfold publishPages
  refine ((flushPages_writes hs).mono_stuck fun _ _ => Or.inl).bind fun _ f hf hflush => ?_
  obtain ⟨hfmeta, hclean⟩ := hflush
  -- syncing leaves the old meta page, too
  have hsame : ∀ g : PageFile, g.disk.bytes = f.disk.bytes → s.pages.SameMeta g := fun g hbytes =>
    hfmeta.trans (.of_bytes_eq hbytes) hf.pageSize_eq hf.length_le
  refine ((syncIfAsked_writes hf.sound).mono_stuck fun g _ h => Or.inl (hsame g h.2)).bind
    fun _ g hg hsync => ?_
  obtain ⟨hcache, hbytes⟩ := hsync
  have hgsize : g.pageSize = s.pages.pageSize := hg.pageSize_eq.trans hf.pageSize_eq
  have hgcount : g.pageCount = s.pages.pageCount := hg.pageCount_eq.trans hf.pageCount_eq
  have hgclean : ∀ (id : Nat) p, id ≠ PageId.metaPage → g.cache.lookup id = some p →
      p.dirty = false := by
    intro id p hid hp
    rw [hcache] at hp
    exact hclean id p hid hp
  -- page 1 is in the file, and so is the place of the meta page before it
  have hlen : g.pageSize ≤ g.disk.bytes.length := by
    have hone : 1 < g.pageCount := by omega
    have hle := hg.sound.stored_le hone fun p hp => hgclean 1 p (by decide) hp
    omega
  refine (change_meta_writes description hg.sound (show 0 < g.pageCount by omega)
    (show MetaPage.size ≤ g.pageSize by omega)).bind
    fun _ k hk hchanged => ?_
  obtain ⟨hkdisk, hkmeta, hkother⟩ := hchanged
  have hksize : k.pageSize = g.pageSize := hk.pageSize_eq
  have hkclean : ∀ (id : Nat) p, id ≠ PageId.metaPage → k.cache.lookup id = some p →
      p.dirty = false := fun id p hid hp => hgclean id p hid ((hkother id hid).symm.trans hp)
  have hpage : MetaPage.size ≤ (g.view PageId.metaPage).length := by
    have hview : (g.view PageId.metaPage).length = g.pageSize :=
      hg.sound.length_view (show 0 < g.pageCount by omega)
    omega
  refine ((flushMeta_writes hk.sound hkmeta rfl (by
    show k.pageSize ≤ k.disk.bytes.length
    rw [hksize, hkdisk]
    exact hlen)).mono_stuck ?_).bind fun _ m hm hflushed => ?_
  · rintro m - ⟨hmcache, hmbytes | hmbytes⟩
    · refine Or.inl (hsame m ?_)
      rw [hmbytes, ← hbytes]
      exact congrArg Disk.bytes hkdisk
    · exact Or.inr (.of_overwrite hkclean hpage hmcache hmbytes)
  · have hm' : Sealed m description := .of_overwrite hkclean hpage hflushed.1 hflushed.2
    exact (syncIfAsked_writes hm.sound).mono (fun _ _ h => hm'.of_eq h.1 h.2)
      fun _ _ h => Or.inr (hm'.of_eq h.1 h.2)

end DurableStore

end PagedTables
