/-
# Lawful page stores

What the free list and the snapshot chain rely on: in a sound page store every page that exists
can be read, changed and joined by a new one, and nothing else happens to the pages.

* `PageView` : the pages of a store, apart from how the store keeps them;
* `LawfulPageStore` : reading, changing and adding pages do that, and only that;
* `BoundedPageStore` : a page that a store does not have cannot be read.
-/
import Mathlib
import PagedTables.Page.Store
import PagedTables.Proofs.Action

namespace PagedTables

/-! ## Views -/

/-- The pages of a store, apart from how the store keeps them. -/
class PageView (σ : Type) where
  /-- What the store keeps besides its pages. -/
  Rest : Type
  /-- The part of the state that no operation on pages changes. -/
  rest : σ → Rest
  /-- The states in which every page can be reached. -/
  Sound : σ → Prop
  /-- The bytes of each page, none where there is no page. -/
  page : σ → PageId → Bytes
  /-- The states in which all pages are as they are stored. -/
  Clean : σ → Prop

namespace PageView

variable {σ : Type} [PageStore σ] [PageView σ]

/-- The state `t` is sound and has these pages, and is like `s` in all else. -/
structure Becomes (s t : σ) (count : Nat) (pages : PageId → Bytes) : Prop where
  sound : Sound t
  pageSize_eq : PageStore.pageSize t = PageStore.pageSize s
  pageCount_eq : PageStore.pageCount t = count
  page_eq : page t = pages
  rest_eq : rest t = rest s

end PageView

open PageView in
/-- A page store whose operations do to its pages what they say. -/
class LawfulPageStore (σ : Type) [PageStore σ] [PageView σ] : Prop where
  /-- All pages have the length that the store states. -/
  length_page {s : σ} {id : PageId} : Sound s → id < PageStore.pageCount s →
    (page s id).length = PageStore.pageSize s
  /-- Reading answers the page and changes no page. -/
  read_ok {s : σ} {id : PageId} : Sound s → id < PageStore.pageCount s →
    ∃ t, PageStore.read id s = .ok (page s id) t ∧
      Becomes s t (PageStore.pageCount s) (page s) ∧ (Clean s → Clean t)
  /-- A change that keeps the length is made on the page, and on no other. -/
  modify_ok {s : σ} {id : PageId} (change : Bytes → Bytes) : Sound s →
    id < PageStore.pageCount s → (change (page s id)).length = PageStore.pageSize s →
    ∃ t, PageStore.modify id change s = .ok () t ∧
      Becomes s t (PageStore.pageCount s) (Function.update (page s) id (change (page s id)))
  /-- A new page gets the next number. -/
  append_ok {s : σ} {bytes : Bytes} : Sound s → bytes.length = PageStore.pageSize s →
    ∃ t, PageStore.append bytes s = .ok (PageStore.pageCount s) t ∧
      Becomes s t (PageStore.pageCount s + 1)
        (Function.update (page s) (PageStore.pageCount s) bytes)

/-- A page store that has no pages but those it counts. -/
class BoundedPageStore (σ : Type) [PageStore σ] : Prop where
  /-- Reading any other page fails, and does nothing else. -/
  read_missing {s : σ} {id : PageId} : PageStore.pageCount s ≤ id →
    PageStore.read id s = .error (.pageNotFound id) s

/-! ## Pages in memory -/

namespace PageArray

instance : PageView PageArray where
  Rest := Unit
  rest _ := ()
  Sound a := ∀ page ∈ a.pages, page.length = a.pageSize
  page a id := a.pages[id]?.getD []
  Clean _ := True

/-- A page of an array is the member under its number. -/
theorem page_of_lt {a : PageArray} {id : PageId} (h : id < a.pages.length) :
    PageView.page a id = a.pages[id] := by
  show a.pages[id]?.getD [] = _
  rw [List.getElem?_eq_getElem h, Option.getD_some]

/-- Reading a page of an array answers it. -/
theorem read_run {a : PageArray} {id : PageId} (h : id < a.pages.length) :
    read id a = .ok a.pages[id] a := by
  rw [read, Action.get_bind, List.getElem?_eq_getElem h]
  rfl

/-- Changing a page of an array replaces this member. -/
theorem modify_run {a : PageArray} {id : PageId} {change : Bytes → Bytes}
    (h : id < a.pages.length) :
    modify id change a = .ok () { a with pages := a.pages.set id (change a.pages[id]) } := by
  rw [modify, Action.get_bind, List.getElem?_eq_getElem h]
  rfl

/-- A page that is appended to an array comes last. -/
theorem append_run {a : PageArray} {page : Bytes} (h : page.length = a.pageSize) :
    append page a = .ok a.pages.length { a with pages := a.pages ++ [page] } := by
  rw [append, Action.get_bind, if_pos h]
  rfl

instance : LawfulPageStore PageArray where
  length_page {a id} hs hid := by
    rw [page_of_lt hid]
    exact hs _ (List.getElem_mem hid)
  read_ok {a id} hs hid := by
    rw [page_of_lt hid]
    exact ⟨a, read_run hid, ⟨hs, rfl, rfl, rfl, rfl⟩, fun hclean => hclean⟩
  modify_ok {a id} change hs hid hlen := by
    rw [page_of_lt hid] at hlen ⊢
    refine ⟨_, modify_run hid, ?_, rfl, List.length_set, ?_, rfl⟩
    · intro page hpage
      rcases List.mem_or_eq_of_mem_set hpage with h | rfl
      · exact hs page h
      · exact hlen
    · funext i
      show (a.pages.set id _)[i]?.getD [] = _
      by_cases hi : i = id
      · subst hi
        rw [List.getElem?_set_self hid, Option.getD_some, Function.update_self]
      · rw [List.getElem?_set_ne (Ne.symm hi), Function.update_of_ne hi]
        rfl
  append_ok {a bytes} hs hlen := by
    refine ⟨_, append_run hlen, ?_, rfl, ?_, ?_, rfl⟩
    · intro page hpage
      rcases List.mem_append.mp hpage with h | h
      · exact hs page h
      · rw [List.mem_singleton.mp h]
        exact hlen
    · show (a.pages ++ [bytes]).length = _
      rw [List.length_append, List.length_singleton]
      rfl
    · funext i
      show (a.pages ++ [bytes])[i]?.getD [] = _
      by_cases hi : i = a.pages.length
      · subst hi
        rw [List.getElem?_concat_length, Option.getD_some]
        exact (Function.update_self a.pages.length bytes (PageView.page a)).symm
      · rw [show PageStore.pageCount a = a.pages.length from rfl, Function.update_of_ne hi]
        show _ = a.pages[i]?.getD []
        rcases Nat.lt_or_gt_of_ne hi with h | h
        · rw [List.getElem?_append_left h]
        · rw [List.getElem?_eq_none (by simpa using h), List.getElem?_eq_none (by omega)]

instance : BoundedPageStore PageArray where
  read_missing {a id} hle := by
    have hnone : a.pages[id]? = none := List.getElem?_eq_none hle
    show read id a = _
    rw [read, Action.get_bind, hnone]
    rfl

end PageArray

end PagedTables
