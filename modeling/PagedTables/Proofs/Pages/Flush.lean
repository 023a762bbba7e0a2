/-
# Writing back

What the file under a page store holds while changed pages are written to it, whatever faults
the writes meet. A page that was not changed is never written, and the meta page is not written
before all others.

* `TornFrom` : a file to which some changes were written, whole or in part;
* `PageFile.flushPages_outcome` : the file is torn while the pages are written, and holds all
  of them in the end;
* `PageFile.flushMeta_outcome` : after that only the meta page is written.
-/
import PagedTables.Proofs.Pages.File

namespace PagedTables

/-! ## Writes and faults -/

namespace Disk

variable {d : Disk}

/-- A write succeeds where no fault was planned. -/
theorem write_ok (h : d.faults = []) (off : Nat) (data : Bytes) :
    write off data d = .ok () { d with bytes := d.bytes.overwrite off data } := by
  obtain ⟨bytes, faults⟩ := d
  obtain rfl : faults = [] := h
  rfl

/-- A write fails only where a fault was planned, and even then may have had its effect. -/
theorem write_outcome (off : Nat) (data : Bytes) :
    ∃ d', (d'.bytes = d.bytes ∨ d'.bytes = d.bytes.overwrite off data) ∧
    ((write off data d = .ok () d' ∧ d'.bytes = d.bytes.overwrite off data ∧
      (d.faults = [] → d'.faults = [])) ∨
    ∃ e, write off data d = .error e d' ∧ d.faults ≠ []) := by
  obtain ⟨bytes, faults⟩ := d
  cases faults with
  | nil =>
    exact ⟨⟨bytes.overwrite off data, []⟩, Or.inr rfl, Or.inl ⟨rfl, rfl, fun _ => rfl⟩⟩
  | cons fault rest =>
    cases fault with
    | none =>
      exact ⟨⟨bytes.overwrite off data, rest⟩, Or.inr rfl, Or.inl ⟨rfl, rfl, nofun⟩⟩
    | lost => exact ⟨⟨bytes, rest⟩, Or.inl rfl, Or.inr ⟨_, rfl, nofun⟩⟩
    | landed =>
      exact ⟨⟨bytes.overwrite off data, rest⟩, Or.inr rfl, Or.inr ⟨_, rfl, nofun⟩⟩

/-- Waiting for written bytes changes none of them. -/
theorem sync_outcome : ∃ d', d'.bytes = d.bytes ∧
    ((sync d = .ok () d' ∧ (d.faults = [] → d'.faults = [])) ∨
    ∃ e, sync d = .error e d' ∧ d.faults ≠ []) := by
  obtain ⟨bytes, faults⟩ := d
  cases faults with
  | nil => exact ⟨⟨bytes, []⟩, rfl, Or.inl ⟨rfl, fun _ => rfl⟩⟩
  | cons fault rest =>
    cases fault with
    | none => exact ⟨⟨bytes, rest⟩, rfl, Or.inl ⟨rfl, nofun⟩⟩
    | lost => exact ⟨⟨bytes, rest⟩, rfl, Or.inr ⟨_, rfl, nofun⟩⟩
    | landed => exact ⟨⟨bytes, rest⟩, rfl, Or.inr ⟨_, rfl, nofun⟩⟩

end Disk

/-! ## Pages under a write -/

section Stored

variable {size id id' : Nat} {file data : Bytes}

/-- A page that is written is in the file. -/
theorem storedPage_overwrite_self (hdata : data.length = size) :
    storedPage size (file.overwrite (id * size) data) id = data := by
  rw [storedPage]
  subst hdata
  exact Bytes.slice_overwrite

/-- Writing a page leaves the others. -/
theorem storedPage_overwrite_of_ne (hne : id' ≠ id) (hdata : data.length = size)
    (hle : (id' + 1) * size ≤ file.length) :
    storedPage size (file.overwrite (id * size) data) id' = storedPage size file id' := by
  rw [storedPage, storedPage]
  apply Bytes.slice_overwrite_of_disjoint
  · rwa [← Nat.succ_mul]
  · rw [hdata, ← Nat.succ_mul, ← Nat.succ_mul]
    rcases Nat.lt_or_gt_of_ne hne with hlt | hgt
    · exact Or.inl (Nat.mul_le_mul_right size hlt)
    · exact Or.inr (Nat.mul_le_mul_right size hgt)

theorem getElem?_overwrite_self {j : Nat} (hdata : data.length = size) (hpos : 0 < size)
    (hj : j / size = id) : (file.overwrite (id * size) data)[j]? = data[j % size]? := by
  subst hj
  have hle := Nat.div_mul_le_self j size
  have hlt := Nat.lt_div_mul_add (a := j) hpos
  rw [Bytes.getElem?_overwrite, hdata, if_neg (Nat.not_lt.mpr hle), if_pos hlt,
    Nat.mod_eq_sub_div_mul]

theorem getElem?_overwrite_of_ne {j : Nat} (hdata : data.length = size)
    (hj : j < file.length) (hne : j / size ≠ id) :
    (file.overwrite (id * size) data)[j]? = file[j]? := by
  rw [Bytes.getElem?_overwrite, hdata]
  by_cases hbefore : j < id * size
  · rw [if_pos hbefore, List.getElem?_eq_getElem hj, Option.getD_some]
  · rw [if_neg hbefore, if_neg]
    intro hin
    exact hne (Nat.div_eq_of_lt_le (by omega) (by rw [Nat.succ_mul]; omega))

end Stored

/-! ## Torn files -/

/-- The byte at a position of the file belongs to a changed page other than the meta page. -/
def PageFile.NewByte (f : PageFile) (j : Nat) (b : Option UInt8) : Prop :=
  j / f.pageSize ≠ PageId.metaPage ∧ ∃ p, f.cache.lookup (j / f.pageSize) = some p ∧
    p.dirty = true ∧ b = p.bytes[j % f.pageSize]?

/-- The file after any of the changes of `f` were written over `old`, whole or in part, except
those of the meta page. What was written behind the old end does not matter. -/
structure TornFrom (old : Bytes) (f : PageFile) (file : Bytes) : Prop where
  length_le : old.length ≤ file.length
  byte : ∀ j < old.length, file[j]? = old[j]? ∨ f.NewByte j file[j]?

namespace PageFile

variable {f g r : PageFile} {id : Nat} {p : CachedPage}

/-- From `f` to `g` some changed pages were written, whole or in part. Nothing is said about the
meta page. -/
structure Written (f g : PageFile) : Prop where
  path_eq : g.path = f.path
  pageSize_eq : g.pageSize = f.pageSize
  pageCount_eq : g.pageCount = f.pageCount
  sound : g.Sound
  view_eq : ∀ id : Nat, id ≠ PageId.metaPage → g.view id = f.view id
  dirty_eq : ∀ (id : Nat) p, id ≠ PageId.metaPage → g.cache.lookup id = some p →
    p.dirty = true → f.cache.lookup id = some p
  length_le : f.disk.bytes.length ≤ g.disk.bytes.length
  byte : ∀ j < f.disk.bytes.length, j / f.pageSize ≠ PageId.metaPage →
    g.disk.bytes[j]? = f.disk.bytes[j]? ∨ f.NewByte j g.disk.bytes[j]?
  faults_nil : f.disk.faults = [] → g.disk.faults = []

/-- The meta page is the same in the files under `f` and `g`. -/
def SameMeta (f g : PageFile) : Prop :=
  ∀ j < f.disk.bytes.length, j / f.pageSize = PageId.metaPage →
    g.disk.bytes[j]? = f.disk.bytes[j]?

/-- The same bytes have the same meta page. -/
theorem SameMeta.of_bytes_eq (h : g.disk.bytes = f.disk.bytes) : f.SameMeta g := by
  intro j _ _
  rw [h]

theorem SameMeta.trans (h₁ : f.SameMeta g) (h₂ : g.SameMeta r) (hsize : g.pageSize = f.pageSize)
    (hlen : f.disk.bytes.length ≤ g.disk.bytes.length) : f.SameMeta r := by
  intro j hj hpage
  rw [h₂ j (Nat.lt_of_lt_of_le hj hlen) (by rw [hsize]; exact hpage), h₁ j hj hpage]

/-- Files with the same meta page are read with the same meta page. -/
theorem SameMeta.storedPage_eq (h : f.SameMeta g) (hle : f.pageSize ≤ f.disk.bytes.length)
    (hle' : f.pageSize ≤ g.disk.bytes.length) :
    storedPage f.pageSize g.disk.bytes PageId.metaPage =
      storedPage f.pageSize f.disk.bytes PageId.metaPage := by
  have hone : (PageId.metaPage + 1) * f.pageSize = f.pageSize := Nat.one_mul _
  have hold := length_storedPage (hone.trans_le hle)
  have hnew := length_storedPage (hone.trans_le hle')
  apply List.ext_getElem?
  intro i
  by_cases hi : i < f.pageSize
  · have hdiv : (PageId.metaPage * f.pageSize + i) / f.pageSize = PageId.metaPage := by
      rw [PageId.metaPage, Nat.zero_mul, Nat.zero_add, Nat.div_eq_of_lt hi]
    have hin : PageId.metaPage * f.pageSize + i < f.disk.bytes.length := by
      rw [PageId.metaPage, Nat.zero_mul, Nat.zero_add]
      exact Nat.lt_of_lt_of_le hi hle
    rw [getElem?_storedPage hi, getElem?_storedPage hi, h _ hin hdiv]
  · rw [List.getElem?_eq_none (by omega), List.getElem?_eq_none (by omega)]

namespace Written

theorem refl (hs : f.Sound) : f.Written f where
  path_eq := rfl
  pageSize_eq := rfl
  pageCount_eq := rfl
  sound := hs
  view_eq _ _ := rfl
  dirty_eq _ _ _ hp _ := hp
  length_le := Nat.le_refl _
  byte _ _ _ := Or.inl rfl
  faults_nil h := h

theorem trans (h₁ : f.Written g) (h₂ : g.Written r) : f.Written r where
  path_eq := h₂.path_eq.trans h₁.path_eq
  pageSize_eq := h₂.pageSize_eq.trans h₁.pageSize_eq
  pageCount_eq := h₂.pageCount_eq.trans h₁.pageCount_eq
  sound := h₂.sound
  view_eq id hid := (h₂.view_eq id hid).trans (h₁.view_eq id hid)
  dirty_eq id p hid hp hdirty := h₁.dirty_eq id p hid (h₂.dirty_eq id p hid hp hdirty) hdirty
  length_le := Nat.le_trans h₁.length_le h₂.length_le
  byte := by
    intro j hj hpage
    have hlen := h₁.length_le
    have hsize := h₁.pageSize_eq
    rcases h₂.byte j (by omega) (by rw [hsize]; exact hpage) with hold | ⟨_, p, hp, hdirty, hb⟩
    · rw [hold]
      exact h₁.byte j hj hpage
    · right
      rw [hsize] at hp hb
      exact ⟨hpage, p, h₁.dirty_eq _ p hpage hp hdirty, hdirty, hb⟩
  faults_nil h := h₂.faults_nil (h₁.faults_nil h)

/-- Where the meta page is as it was, the file is torn. -/
theorem torn (hw : f.Written g) (hmeta : f.SameMeta g) :
    TornFrom f.disk.bytes f g.disk.bytes where
  length_le := hw.length_le
  byte := by
    intro j hj
    by_cases hpage : j / f.pageSize = PageId.metaPage
    · exact Or.inl (hmeta j hj hpage)
    · exact hw.byte j hj hpage

end Written

/-- From `f` to `g` nothing was written to the meta page. -/
structure PagesWritten (f g : PageFile) : Prop extends f.Written g where
  meta_cached : g.cache.lookup PageId.metaPage = f.cache.lookup PageId.metaPage
  sameMeta : f.SameMeta g

namespace PagesWritten

theorem refl (hs : f.Sound) : f.PagesWritten f :=
  ⟨Written.refl hs, rfl, fun _ _ _ => rfl⟩

theorem trans (h₁ : f.PagesWritten g) (h₂ : g.PagesWritten r) : f.PagesWritten r := by
  refine ⟨h₁.toWritten.trans h₂.toWritten, h₂.meta_cached.trans h₁.meta_cached, ?_⟩
  exact h₁.sameMeta.trans h₂.sameMeta h₁.pageSize_eq h₁.length_le

end PagesWritten

/-! ## One page -/

/-- Writing a changed page or the meta page, with whatever effect. -/
theorem written_disk {d : Disk} {data : Bytes} (hs : f.Sound) (hlen : data.length = f.pageSize)
    (hpage : id = PageId.metaPage ∨
      ∃ p, f.cache.lookup id = some p ∧ p.dirty = true ∧ p.bytes = data)
    (hbytes : d.bytes = f.disk.bytes ∨ d.bytes = f.disk.bytes.overwrite (id * f.pageSize) data)
    (hfaults : f.disk.faults = [] → d.faults = []) : f.Written { f with disk := d } := by
  have hle : f.disk.bytes.length ≤ d.bytes.length := by
    rcases hbytes with h | h
    · exact Nat.le_of_eq (congrArg List.length h.symm)
    · rw [h, Bytes.length_overwrite_eq_max]
      exact Nat.le_max_left _ _
  -- the written page is not among those that are read from the file
  have hsame : ∀ id' : Nat, id' ≠ PageId.metaPage → id' < f.pageCount →
      (∀ q, f.cache.lookup id' = some q → q.dirty = false) →
      storedPage f.pageSize d.bytes id' = storedPage f.pageSize f.disk.bytes id' := by
    intro id' hmeta hlt hclean
    have hne : id' ≠ id := by
      rintro rfl
      rcases hpage with heq | ⟨p, hp, hdirty, -⟩
      · exact hmeta heq
      · rw [hclean p hp] at hdirty
        cases hdirty
    rcases hbytes with h | h
    · rw [h]
    · rw [h, storedPage_overwrite_of_ne hne hlen (hs.stored_le hlt hclean)]
  refine {
    path_eq := rfl
    pageSize_eq := rfl
    pageCount_eq := rfl
    sound := ?_
    view_eq := ?_
    dirty_eq := fun _ _ _ hq _ => hq
    length_le := hle
    byte := ?_
    faults_nil := hfaults }
  · exact {
      cached_lt := hs.cached_lt
      length_cached := hs.length_cached
      stored_le := fun hlt hc => Nat.le_trans (hs.stored_le hlt hc) hle
      clean_eq := by
        intro id' q hq hclean hmeta
        rw [hs.clean_eq hq hclean hmeta]
        refine (hsame id' hmeta (hs.cached_lt hq) ?_).symm
        intro q' hq'
        obtain rfl := Option.some.inj (hq.symm.trans hq')
        exact hclean }
  · intro id' hmeta
    refine view_congr Iff.rfl rfl fun hlt hnone => hsame id' hmeta hlt ?_
    intro q hq
    rw [hnone] at hq
    cases hq
  · intro j hj hmeta
    rcases hbytes with h | h
    · exact Or.inl (by rw [h])
    · rw [h]
      by_cases hdiv : j / f.pageSize = id
      · rcases hpage with heq | ⟨p, hp, hdirty, hdata⟩
        · exact absurd (hdiv.trans heq) hmeta
        · right
          have hpos : 0 < f.pageSize := by
            apply Nat.pos_of_ne_zero
            intro hzero
            exact hmeta (by rw [hzero]; exact Nat.div_zero j)
          rw [getElem?_overwrite_self hlen hpos hdiv]
          exact ⟨hmeta, p, by rw [hdiv]; exact hp, hdirty, by rw [hdata]⟩
      · exact Or.inl (getElem?_overwrite_of_ne hlen hj hdiv)

/-- Writing a changed page leaves the meta page alone. -/
theorem pagesWritten_disk {d : Disk} (hs : f.Sound) (hid : id ≠ PageId.metaPage)
    (hp : f.cache.lookup id = some p) (hdirty : p.dirty = true)
    (hbytes : d.bytes = f.disk.bytes ∨
      d.bytes = f.disk.bytes.overwrite (id * f.pageSize) p.bytes)
    (hfaults : f.disk.faults = [] → d.faults = []) : f.PagesWritten { f with disk := d } := by
  have hlen := hs.length_cached hp
  refine ⟨written_disk hs hlen (Or.inr ⟨p, hp, hdirty, rfl⟩) hbytes hfaults, rfl, ?_⟩
  intro j hj hpage
  rcases hbytes with h | h
  · exact congrArg (·[j]?) h
  · show d.bytes[j]? = _
    rw [h, getElem?_overwrite_of_ne hlen hj]
    rintro rfl
    exact hid hpage

/-- A page that agrees with the file may count as unchanged. -/
theorem written_markClean (hs : f.Sound) (hp : f.cache.lookup id = some p)
    (hle : (id + 1) * f.pageSize ≤ f.disk.bytes.length)
    (hstored : id ≠ PageId.metaPage → p.bytes = storedPage f.pageSize f.disk.bytes id) :
    f.Written { f with cache := f.cache.insert id ⟨p.bytes, false⟩ } where
  path_eq := rfl
  pageSize_eq := rfl
  pageCount_eq := rfl
  sound := by
    have hlen := hs.length_cached hp
    exact hs.insert (p := ⟨p.bytes, false⟩) (hs.cached_lt hp) hlen fun _ => ⟨hle, hstored⟩
  view_eq := by
    intro id' _
    rw [view_insert (hs.cached_lt hp), ← view_cached (hs.cached_lt hp) hp]
    exact congrFun (Function.update_eq_self id f.view) id'
  dirty_eq := by
    intro id' q _ hq hdirty
    rcases lookup_insert_cases hq with ⟨-, rfl⟩ | ⟨-, hq'⟩
    · cases hdirty
    · exact hq'
  length_le := Nat.le_refl _
  byte _ _ _ := Or.inl rfl
  faults_nil h := h

/-! ## All pages but the meta page -/

/-- An action on the disk that succeeds leaves what is at hand. -/
theorem onDisk_ok {α : Type} {act : Action StoreError Disk α} {a : α} {d : Disk}
    (h : act f.disk = .ok a d) : onDisk act f = .ok a { f with disk := d } :=
  Action.within_ok h

theorem onDisk_error {α : Type} {act : Action StoreError Disk α} {e : StoreError} {d : Disk}
    (h : act f.disk = .error e d) : onDisk act f = .error e { f with disk := d } :=
  Action.within_error h

/-- Writing back changed pages stops at the first fault; where there is none, all of them are
unchanged in the end. -/
theorem writeBack_outcome (l : List (PageId × CachedPage)) (hs : f.Sound)
    (hcached : ∀ e ∈ l, f.cache.lookup e.1 = some e.2 ∧ e.2.dirty = true ∧
      e.1 ≠ PageId.metaPage) (hnodup : (l.map Prod.fst).Nodup) :
    ∃ g, f.PagesWritten g ∧
      ((writeBack l f = .ok () g ∧ ∀ id ∈ l.map Prod.fst, ∀ p,
          g.cache.lookup id = some p → p.dirty = false) ∨
        ∃ e, writeBack l f = .error e g ∧ f.disk.faults ≠ []) := by
  induction l generalizing f with
  | nil => exact ⟨f, PagesWritten.refl hs, Or.inl ⟨rfl, nofun⟩⟩
  | cons x rest ih =>
    obtain ⟨id, p⟩ := x
    obtain ⟨hp, hdirty, hid⟩ := hcached (id, p) List.mem_cons_self
    obtain ⟨hnotin, hnodup'⟩ := List.nodup_cons.mp hnodup
    have hlen := hs.length_cached hp
    obtain ⟨d, hbytes, hrun⟩ := Disk.write_outcome (d := f.disk) (id * f.pageSize) p.bytes
    rcases hrun with ⟨hrun, hnew, hfaults⟩ | ⟨e, hrun, hfaults⟩
    -- the page is written, counts as unchanged, and the others follow
    · have hw := pagesWritten_disk hs hid hp hdirty hbytes hfaults
      have hle : (id + 1) * f.pageSize ≤ d.bytes.length := by
        rw [hnew, Bytes.length_overwrite_eq_max, hlen, Nat.succ_mul]
        exact Nat.le_max_right _ _
      have hclean := written_markClean (f := { f with disk := d }) hw.sound hp hle fun _ => by
        show p.bytes = storedPage f.pageSize d.bytes id
        rw [hnew, storedPage_overwrite_self hlen]
      have hw' : f.PagesWritten
          { f with disk := d, cache := f.cache.insert id ⟨p.bytes, false⟩ } :=
        hw.trans ⟨hclean, OrderedMap.lookup_insert_of_ne _ _ hid.symm, fun _ _ _ => rfl⟩
      obtain ⟨g, hg, hout⟩ := ih hw'.sound (by
        intro e he
        obtain ⟨hlookup, hrest⟩ := hcached e (List.mem_cons_of_mem _ he)
        refine ⟨?_, hrest⟩
        show (f.cache.insert id _).lookup e.1 = some e.2
        rw [OrderedMap.lookup_insert_of_ne, hlookup]
        intro heq
        exact hnotin (List.mem_map.mpr ⟨e, he, heq⟩)) hnodup'
      have hstep : writeBack ((id, p) :: rest) f =
          writeBack rest { f with disk := d, cache := f.cache.insert id ⟨p.bytes, false⟩ } := by
        rw [writeBack, Action.bind_ok (show writeAt id p.bytes f = .ok () { f with disk := d } by
          rw [writeAt, Action.get_bind, onDisk_ok hrun])]
        rfl
      refine ⟨g, hw'.trans hg, ?_⟩
      rcases hout with ⟨hok, hall⟩ | ⟨e, herr, hfaults'⟩
      · refine Or.inl ⟨hstep.trans hok, ?_⟩
        intro id' hid' q hq
        rcases List.mem_cons.mp hid' with rfl | hrest
        · cases hdirty' : q.dirty with
          | false => rfl
          | true =>
            -- a page that is changed in the end was changed before, and this one was not
            have hself : (f.cache.insert id' ⟨p.bytes, false⟩).lookup id' = some q :=
              hg.dirty_eq _ q hid hq hdirty'
            rw [OrderedMap.lookup_insert_self] at hself
            obtain rfl := Option.some.inj hself
            cases hdirty'
        · exact hall id' hrest q hq
      · refine Or.inr ⟨e, hstep.trans herr, ?_⟩
        intro hnil
        exact hfaults' (hfaults hnil)
    -- the fault may come before or after the effect of the write
    · have hw := pagesWritten_disk hs hid hp hdirty hbytes (fun h => absurd h hfaults)
      refine ⟨_, hw, Or.inr ⟨e, ?_, hfaults⟩⟩
      rw [writeBack, Action.bind_error (show writeAt id p.bytes f = .error e { f with disk := d } by
        rw [writeAt, Action.get_bind, onDisk_error hrun])]

/-- The changed pages are those in the cache that count as changed. -/
theorem mem_dirtyPages {e : PageId × CachedPage} :
    e ∈ f.dirtyPages ↔ f.cache.lookup e.1 = some e.2 ∧ e.2.dirty = true := by
  rw [dirtyPages, List.mem_filter, ← OrderedMap.mem_toList_iff]

/-- No page is written twice. -/
theorem nodup_dirtyPages (keep : PageId × CachedPage → Bool) :
    ((f.dirtyPages.filter keep).map Prod.fst).Nodup :=
  f.cache.nodup_keys.sublist ((List.filter_sublist.trans List.filter_sublist).map Prod.fst)

/-- **Writing the changed pages** but the meta page: at any fault the file is torn between old
and new pages; where there is none, it holds all changes. -/
theorem flushPages_outcome (hs : f.Sound) :
    ∃ g, f.PagesWritten g ∧
      ((∃ n, flushPages f = .ok n g ∧ ∀ (id : Nat) p, id ≠ PageId.metaPage →
          g.cache.lookup id = some p → p.dirty = false) ∨
        ∃ e, flushPages f = .error e g ∧ f.disk.faults ≠ []) := by
  obtain ⟨g, hg, hout⟩ := writeBack_outcome
    (f.dirtyPages.filter fun e => e.1 != PageId.metaPage) hs (by
      intro e he
      rw [List.mem_filter, mem_dirtyPages] at he
      exact ⟨he.1.1, he.1.2, bne_iff_ne.mp he.2⟩) (nodup_dirtyPages _)
  refine ⟨g, hg, ?_⟩
  rcases hout with ⟨hok, hall⟩ | ⟨e, herr, hfaults⟩
  · refine Or.inl ⟨(f.dirtyPages.filter fun e => e.1 != PageId.metaPage).length, ?_, ?_⟩
    · rw [flushPages, Action.get_bind, Action.bind_ok hok]
      rfl
    · intro id p hid hp
      cases hdirty : p.dirty with
      | false => rfl
      | true =>
        have hmem : (id, p) ∈ f.dirtyPages.filter fun e => e.1 != PageId.metaPage := by
          rw [List.mem_filter, mem_dirtyPages]
          exact ⟨⟨hg.dirty_eq id p hid hp hdirty, hdirty⟩, bne_iff_ne.mpr hid⟩
        exact hdirty.symm.trans (hall id (List.mem_map_of_mem hmem) p hp)
  · refine Or.inr ⟨e, ?_, hfaults⟩
    rw [flushPages, Action.get_bind, Action.bind_error herr]

/-! ## The meta page -/

/-- Changing the meta page in the cache. -/
theorem change_meta_ok (change' : Bytes → Bytes) (hs : f.Sound) (hpos : 0 < f.pageCount)
    (hlen : (change' (f.view PageId.metaPage)).length = f.pageSize) :
    ∃ g, change PageId.metaPage change' f = .ok () g ∧ f.Written g ∧ g.disk = f.disk ∧
      g.cache.lookup PageId.metaPage = some ⟨change' (f.view PageId.metaPage), true⟩ ∧
      ∀ id : Nat, id ≠ PageId.metaPage → g.cache.lookup id = f.cache.lookup id := by
  have hmeta : PageId.metaPage < f.pageCount := hpos
  obtain ⟨p, g, hload, hbytes, hbec, -, hother⟩ := load_ok hs hmeta
  have hsize : g.pageSize = f.pageSize := hbec.pageSize_eq
  have hcount : g.pageCount = f.pageCount := hbec.pageCount_eq
  have hdisk : g.disk = f.disk := congrArg Prod.snd hbec.rest_eq
  have hsound : g.Sound := hbec.sound
  have hlt : PageId.metaPage < g.pageCount := by
    rw [hcount]
    exact hpos
  have hother' : ∀ id : Nat, id ≠ PageId.metaPage →
      (g.cache.insert PageId.metaPage ⟨change' p.bytes, true⟩).lookup id =
        f.cache.lookup id := by
    intro id hid
    rw [OrderedMap.lookup_insert_of_ne _ _ hid, hother id hid]
  refine ⟨{ g with cache := g.cache.insert PageId.metaPage ⟨change' p.bytes, true⟩ }, ?_, {
    path_eq := congrArg Prod.fst hbec.rest_eq
    pageSize_eq := hsize
    pageCount_eq := hcount
    sound := ?_
    view_eq := ?_
    dirty_eq := ?_
    length_le := by rw [hdisk]
    byte := ?_
    faults_nil := by rw [hdisk]; exact fun h => h }, hdisk, ?_, hother'⟩
  · rw [change, Action.bind_ok hload]
    rfl
  · apply hsound.insert (p := ⟨change' p.bytes, true⟩) hlt _ fun hclean => by cases hclean
    show (change' p.bytes).length = g.pageSize
    rw [hbytes, hlen, hsize]
  · intro id hid
    rw [view_insert hlt, Function.update_of_ne hid]
    exact congrFun hbec.page_eq id
  · intro id q hid hq _
    rw [← hother' id hid]
    exact hq
  · intro j _ _
    rw [hdisk]
    exact Or.inl rfl
  · rw [← hbytes]
    exact OrderedMap.lookup_insert_self _ _ _

/-- Writing the meta page: at a fault the file may hold either one; where there is none, it
holds the new one. All other pages stay as they are. -/
theorem flushMeta_outcome (hs : f.Sound) (hp : f.cache.lookup PageId.metaPage = some p)
    (hdirty : p.dirty = true) (hle : f.pageSize ≤ f.disk.bytes.length) :
    ∃ g, f.Written g ∧ g.cache = f.cache.insert PageId.metaPage ⟨p.bytes, false⟩ ∧
      ((flushMeta f = .ok () g ∧ g.disk.bytes = f.disk.bytes.overwrite 0 p.bytes) ∨
        ∃ e, flushMeta f = .error e g ∧ f.disk.faults ≠ [] ∧
          (g.disk.bytes = f.disk.bytes ∨ g.disk.bytes = f.disk.bytes.overwrite 0 p.bytes)) := by
  obtain ⟨bytes, dirty⟩ := p
  obtain rfl : dirty = true := hdirty
  have hlen : bytes.length = f.pageSize := hs.length_cached hp
  -- the page counts as unchanged before it is written
  have hclean := written_markClean hs hp (by rwa [PageId.metaPage, Nat.zero_add, Nat.one_mul])
    (fun h => absurd rfl h)
  obtain ⟨d, hbytes, hrun⟩ := Disk.write_outcome (d := f.disk)
    (PageId.metaPage * f.pageSize) bytes
  have hstart : flushMeta f = writeAt PageId.metaPage bytes
      { f with cache := f.cache.insert PageId.metaPage ⟨bytes, false⟩ } := by
    rw [flushMeta, Action.get_bind, hp]
    rfl
  rw [hstart, writeAt, Action.get_bind]
  have hzero : PageId.metaPage * f.pageSize = 0 := Nat.zero_mul _
  rcases hrun with ⟨hrun, hnew, hfaults⟩ | ⟨e, hrun, hfaults⟩
  · refine ⟨_, hclean.trans (written_disk hclean.sound hlen (Or.inl rfl) hbytes hfaults), rfl,
      Or.inl ⟨onDisk_ok hrun, ?_⟩⟩
    show d.bytes = _
    rw [hnew, hzero]
  · refine ⟨_, hclean.trans (written_disk hclean.sound hlen (Or.inl rfl) hbytes
      (fun h => absurd h hfaults)), rfl, Or.inr ⟨e, onDisk_error hrun, hfaults, ?_⟩⟩
    rwa [hzero] at hbytes

/-- Making the written pages durable changes none of them. -/
theorem sync_outcome (hs : f.Sound) :
    ∃ g, f.Written g ∧ g.cache = f.cache ∧ g.disk.bytes = f.disk.bytes ∧
      (sync f = .ok () g ∨ ∃ e, sync f = .error e g ∧ f.disk.faults ≠ []) := by
  obtain ⟨d, hbytes, hrun⟩ := Disk.sync_outcome (d := f.disk)
  -- no byte changes, so it does not matter which page is said to be written
  have hw : ∀ hfaults, f.Written { f with disk := d } := fun hfaults =>
    written_disk hs (Bytes.length_zeros f.pageSize) (Or.inl rfl) (Or.inl hbytes) hfaults
  rcases hrun with ⟨hrun, hfaults⟩ | ⟨e, hrun, hfaults⟩
  · exact ⟨_, hw hfaults, rfl, hbytes, Or.inl (onDisk_ok hrun)⟩
  · exact ⟨_, hw (fun h => absurd h hfaults), rfl, hbytes,
      Or.inr ⟨e, onDisk_error hrun, hfaults⟩⟩

/-! ## Forgetting -/

/-- Pages that are as the file holds them, dropped from the cache, are still there. -/
theorem Sound.filter (hs : f.Sound) {keep : PageId × CachedPage → Bool} {count : Nat}
    (hcount : count ≤ f.pageCount)
    (hkeep : ∀ (id : Nat) p, f.cache.lookup id = some p → keep (id, p) = true → id < count)
    (hdrop : ∀ (id : Nat) p, id < count → f.cache.lookup id = some p → keep (id, p) = false →
      (id + 1) * f.pageSize ≤ f.disk.bytes.length) :
    Sound { f with pageCount := count, cache := f.cache.filter keep } where
  cached_lt := by
    intro id p hp
    rw [OrderedMap.lookup_filter, Option.filter_eq_some_iff] at hp
    exact hkeep id p hp.1 hp.2
  length_cached := by
    intro id p hp
    rw [OrderedMap.lookup_filter, Option.filter_eq_some_iff] at hp
    exact hs.length_cached hp.1
  stored_le := by
    intro id hlt hclean
    have hlt' : id < count := hlt
    cases hp : f.cache.lookup id with
    | none =>
      apply hs.stored_le (by omega)
      intro p hp'
      rw [hp] at hp'
      cases hp'
    | some p =>
      cases hb : keep (id, p) with
      | false => exact hdrop id p hlt hp hb
      | true =>
        apply hs.stored_le (hs.cached_lt hp)
        intro q hq
        obtain rfl := Option.some.inj (hp.symm.trans hq)
        apply hclean p
        show (f.cache.filter keep).lookup id = some p
        rw [OrderedMap.lookup_filter, hp, Option.filter_eq_some_iff]
        exact ⟨rfl, hb⟩
  clean_eq := by
    intro id p hp hclean hid
    rw [OrderedMap.lookup_filter, Option.filter_eq_some_iff] at hp
    exact hs.clean_eq hp.1 hclean hid

/-- A page that is not kept is not at hand any more. -/
theorem filter_eq_none {keep : PageId × CachedPage → Bool}
    (h : ∀ p, f.cache.lookup id = some p → keep (id, p) = false) :
    (f.cache.filter keep).lookup id = none := by
  rw [OrderedMap.lookup_filter, Option.filter_eq_none_iff]
  intro p hp hkeep
  rw [h p hp] at hkeep
  cases hkeep

/-- Unchanged pages need not be in the cache. -/
theorem Sound.evictClean (hs : f.Sound) : f.evictClean.Sound := by
  apply hs.filter (Nat.le_refl _)
  · intro id p hp _
    exact hs.cached_lt hp
  · intro id p hlt hp hclean
    apply hs.stored_le hlt
    intro q hq
    obtain rfl := Option.some.inj (hp.symm.trans hq)
    exact hclean

/-- Dropping unchanged pages leaves a file without changed ones so. -/
theorem Clean.evictClean (hc : f.Clean) : f.evictClean.Clean := by
  intro id p hp
  have hnone : f.evictClean.cache.lookup id = none :=
    filter_eq_none fun q hq => hc id q hq
  rw [hnone] at hp
  cases hp

/-- A sound file is so with fewer pages. -/
theorem Sound.truncate (hs : f.Sound) (count : Nat) : (f.truncate count).Sound := by
  apply hs.filter (Nat.min_le_left _ _)
  · intro id p hp hkeep
    exact Nat.lt_min.mpr ⟨hs.cached_lt hp, of_decide_eq_true hkeep⟩
  · intro id p hlt _ hdrop
    exact absurd (Nat.lt_min.mp hlt).2 (of_decide_eq_false hdrop)

theorem Clean.truncate (hc : f.Clean) (count : Nat) : (f.truncate count).Clean := by
  intro id p hp
  have hp' : (f.cache.filter fun e => decide (e.1 < count)).lookup id = some p := hp
  rw [OrderedMap.lookup_filter, Option.filter_eq_some_iff] at hp'
  exact hc id p hp'.1

/-- What is discarded is all changes, and the pages since the last commit. -/
theorem discardUncommitted_eq (committed : Nat) : f.discardUncommitted committed =
    { f with
      pageCount := min f.pageCount committed
      cache := f.cache.filter fun e => decide (e.1 < committed) && !e.2.dirty } := by
  have hcache : ((f.cache.filter fun e => !e.2.dirty).filter fun e => decide (e.1 < committed)) =
      f.cache.filter fun e => decide (e.1 < committed) && !e.2.dirty :=
    OrderedMap.ext List.filter_filter
  rw [← hcache]
  rfl

/-- Changes may be forgotten where the file has all committed pages. -/
theorem Sound.discardUncommitted (hs : f.Sound) {committed : Nat}
    (hle : committed * f.pageSize ≤ f.disk.bytes.length) :
    (f.discardUncommitted committed).Sound := by
  rw [discardUncommitted_eq]
  apply hs.filter (Nat.min_le_left _ _)
  · intro id p hp hkeep
    rw [Bool.and_eq_true] at hkeep
    exact Nat.lt_min.mpr ⟨hs.cached_lt hp, of_decide_eq_true hkeep.1⟩
  · intro id p hlt _ _
    exact Nat.le_trans (Nat.mul_le_mul_right _ (Nat.lt_min.mp hlt).2) hle

/-- After changes are discarded no page is changed. -/
theorem clean_discardUncommitted (committed : Nat) : (f.discardUncommitted committed).Clean := by
  rw [discardUncommitted_eq]
  intro id p hp
  have hp' : (f.cache.filter fun e => decide (e.1 < committed) && !e.2.dirty).lookup id =
    some p := hp
  rw [OrderedMap.lookup_filter, Option.filter_eq_some_iff, Bool.and_eq_true] at hp'
  simpa using hp'.2.2

/-- In a file without changes every page but the meta page is shown as the file holds it. -/
theorem Sound.view_eq_storedPage (hs : f.Sound) (hc : f.Clean) (hlt : id < f.pageCount)
    (hid : id ≠ PageId.metaPage) : f.view id = storedPage f.pageSize f.disk.bytes id :=
  hs.view_clean hlt hid fun p hp => hc id p hp

end PageFile

end PagedTables
