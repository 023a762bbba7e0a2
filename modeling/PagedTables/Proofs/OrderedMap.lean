/-
# More about ordered maps

* `OrderedMap.lookup_insert_eq_some_iff` : what is found after an insertion;
* `OrderedMap.lookup_filter` : selecting entries selects values under their keys;
* `OrderedMap.mem_toList_iff` : the entries are the keys with their values;
* `OrderedMap.ext_lookup` : maps with the same values under all keys are equal;
* `OrderedMap.foldl_insert` : inserting the entries in order restores the map.
-/
import Mathlib
import PagedTables.OrderedMap

namespace PagedTables

namespace OrderedMap

universe u v

variable {α : Type u} {β : Type v} [Ord α]

/-- Maps with the same entries are the same. -/
theorem ext {m n : OrderedMap α β} (h : m.toList = n.toList) : m = n := by
  obtain ⟨l, hl⟩ := m
  obtain ⟨k, hk⟩ := n
  obtain rfl : l = k := h
  rfl

/-! ## Looking up -/

variable [Std.TransOrd α] [Std.LawfulEqOrd α]

theorem lookup_insert_self (m : OrderedMap α β) (k : α) (v : β) :
    (m.insert k v).lookup k = some v := by
  rw [lookup_insert, if_pos Std.ReflCmp.compare_self]

/-- Other keys are found as before an insertion. -/
theorem lookup_insert_of_ne (m : OrderedMap α β) {k k' : α} (v : β) (h : k' ≠ k) :
    (m.insert k v).lookup k' = m.lookup k' := by
  rw [lookup_insert, if_neg]
  intro heq
  exact h (Std.LawfulEqCmp.eq_of_compare heq).symm

/-- What is found after an insertion was inserted, or was there under another key. -/
theorem lookup_insert_eq_some_iff {m : OrderedMap α β} {k k' : α} {v w : β} :
    (m.insert k v).lookup k' = some w ↔ k' = k ∧ v = w ∨ k' ≠ k ∧ m.lookup k' = some w := by
  by_cases h : k' = k
  · subst h
    simp [lookup_insert_self]
  · simp [lookup_insert_of_ne m v h, h]

omit [Std.TransOrd α] in
/-- Selecting entries selects values under their keys. -/
theorem lookup_filter (m : OrderedMap α β) (keep : α × β → Bool) (k : α) :
    (m.filter keep).lookup k = (m.lookup k).filter fun v => keep (k, v) := by
  obtain ⟨l, h⟩ := m
  simp only [lookup, filter]
  induction l with
  | nil => rfl
  | cons x rest ih =>
    obtain ⟨hx, hrest⟩ := List.pairwise_cons.mp h
    obtain ⟨key, value⟩ := x
    by_cases heq : compare key k = .eq
    · obtain rfl := Std.LawfulEqCmp.eq_of_compare heq
      -- no later entry has this key
      have hnone : rest.find? (fun e => compare e.1 key == .eq) = none := by
        rw [List.find?_eq_none]
        intro e he hkey
        obtain hekey := Std.LawfulEqCmp.eq_of_compare (eq_of_beq hkey)
        have hlt := hx e he
        rw [hekey, heq] at hlt
        cases hlt
      have ih' := ih hrest
      rw [hnone] at ih'
      by_cases hkeep : keep (key, value) = true
      · simp [hkeep, Option.filter]
      · rw [List.filter_cons_of_neg hkeep, ih']
        simp [hkeep, Option.filter]
    · by_cases hkeep : keep (key, value) = true
      · simpa [heq, hkeep] using ih hrest
      · simpa [heq, hkeep] using ih hrest

omit [Std.TransOrd α] in
/-- A test of the keys alone keeps or drops what is found under each key. -/
theorem lookup_filter_key (m : OrderedMap α β) (keep : α → Bool) (k : α) :
    (m.filter fun e => keep e.1).lookup k = if keep k then m.lookup k else none := by
  rw [lookup_filter]
  cases m.lookup k <;> by_cases h : keep k <;> simp [h]

omit [Std.TransOrd α] in
/-- The entries are the keys with their values. -/
theorem mem_toList_iff (m : OrderedMap α β) {k : α} {v : β} :
    (k, v) ∈ m.toList ↔ m.lookup k = some v := by
  obtain ⟨l, h⟩ := m
  simp only [lookup]
  induction l with
  | nil => simp
  | cons x rest ih =>
    obtain ⟨hx, hrest⟩ := List.pairwise_cons.mp h
    obtain ⟨key, value⟩ := x
    by_cases heq : compare key k = .eq
    · obtain rfl := Std.LawfulEqCmp.eq_of_compare heq
      have hnot : (key, v) ∉ rest := by
        intro hmem
        have hlt := hx _ hmem
        rw [heq] at hlt
        cases hlt
      simp only [List.mem_cons, Prod.mk.injEq, true_and, hnot, or_false, heq, beq_self_eq_true,
        List.find?_cons_of_pos, Option.map_some, Option.some.injEq]
      exact eq_comm
    · have hne : k ≠ key := by
        rintro rfl
        exact heq Std.ReflCmp.compare_self
      simp only [List.mem_cons, Prod.mk.injEq, hne, false_and, false_or]
      rw [ih hrest, List.find?_cons_of_neg (by simpa using heq)]

omit [Std.TransOrd α] in
/-- No key occurs twice. -/
theorem nodup_keys (m : OrderedMap α β) : (m.toList.map Prod.fst).Nodup := by
  rw [List.nodup_iff_pairwise_ne, List.pairwise_map]
  apply m.ascending.imp
  intro a b hlt heq
  have hself : compare b.1 b.1 = .eq := Std.ReflCmp.compare_self
  rw [heq, hself] at hlt
  cases hlt

omit [Std.TransOrd α] in
/-- The entry under a key is the one whose key is equal to it. -/
theorem head?_filter_eq (m : OrderedMap α β) (k : α) :
    (m.toList.filter fun e => compare e.1 k == .eq).head? = (m.lookup k).map fun v => (k, v) := by
  rw [List.head?_filter, lookup, Option.map_map]
  cases hfind : m.toList.find? fun e => compare e.1 k == .eq with
  | none => rfl
  | some e =>
    obtain ⟨k', v⟩ := e
    have hk := List.find?_some hfind
    obtain rfl := Std.LawfulEqCmp.eq_of_compare (eq_of_beq hk)
    rfl

/-! ## Equal maps -/

/-- Strictly ascending lists with the same entries are equal. -/
theorem eq_of_mem_iff {l k : List (α × β)} (hl : l.Pairwise fun a b => compare a.1 b.1 = .lt)
    (hk : k.Pairwise fun a b => compare a.1 b.1 = .lt) (h : ∀ e, e ∈ l ↔ e ∈ k) : l = k := by
  have hne : ∀ a b : α × β, compare a.1 b.1 = .lt → a ≠ b := by
    rintro a b hlt rfl
    have heq : compare a.1 a.1 = .eq := Std.ReflCmp.compare_self
    rw [heq] at hlt
    cases hlt
  have hperm : l.Perm k :=
    (List.perm_ext_iff_of_nodup (hl.imp (hne _ _)) (hk.imp (hne _ _))).mpr h
  refine hperm.eq_of_pairwise ?_ hl hk
  intro a b _ _ hab hba
  rw [Std.OrientedCmp.gt_of_lt hba] at hab
  cases hab

/-- Maps with the same values under all keys are equal. -/
theorem ext_lookup {m n : OrderedMap α β} (h : ∀ k, m.lookup k = n.lookup k) : m = n := by
  apply ext
  refine eq_of_mem_iff m.ascending n.ascending ?_
  rintro ⟨k, v⟩
  rw [mem_toList_iff, mem_toList_iff, h]

/-- Storing what is stored already changes nothing. -/
theorem insert_of_lookup {m : OrderedMap α β} {k : α} {v : β} (h : m.lookup k = some v) :
    m.insert k v = m := by
  apply ext_lookup
  intro k'
  rw [lookup_insert]
  split
  · next heq => rw [← Std.LawfulEqCmp.eq_of_compare heq, h]
  · rfl

/-- Removing what is not there changes nothing. -/
theorem erase_of_lookup {m : OrderedMap α β} {k : α} (h : m.lookup k = none) :
    m.erase k = m := by
  apply ext_lookup
  intro k'
  rw [lookup_erase]
  split
  · next heq => rw [← Std.LawfulEqCmp.eq_of_compare heq, h]
  · rfl

/-- Removing a key undoes storing a value under it for the first time. -/
theorem erase_insert {m : OrderedMap α β} {k : α} (v : β) (h : m.lookup k = none) :
    (m.insert k v).erase k = m := by
  apply ext_lookup
  intro k'
  rw [lookup_erase, lookup_insert]
  split
  · next heq => rw [← Std.LawfulEqCmp.eq_of_compare heq, h]
  · rfl

/-- Of two values stored under one key the second one stays. -/
theorem insert_insert (m : OrderedMap α β) (k : α) (v w : β) :
    (m.insert k v).insert k w = m.insert k w := by
  apply ext_lookup
  intro k'
  rw [lookup_insert, lookup_insert, lookup_insert]
  split <;> rfl

omit [Std.LawfulEqOrd α] in
/-- A new key adds one entry. -/
theorem size_insert {m : OrderedMap α β} {k : α} (v : β) (h : m.lookup k = none) :
    (m.insert k v).size = m.size + 1 := by
  obtain ⟨l, hl⟩ := m
  simp only [size, insert]
  simp only [lookup, Option.map_eq_none_iff] at h
  clear hl
  induction l with
  | nil => rfl
  | cons x rest ih =>
    rw [List.find?_cons] at h
    split at h
    · cases h
    · next hx =>
      rw [place]
      split
      · rfl
      · next heq =>
        rw [Std.OrientedCmp.eq_symm heq] at hx
        cases hx
      · rw [List.length_cons, List.length_cons, ih h]

omit [Std.LawfulEqOrd α] in
/-- A key that is there already adds none. -/
theorem size_insert_of_lookup {m : OrderedMap α β} {k : α} {w : β} (v : β)
    (h : m.lookup k = some w) : (m.insert k v).size = m.size := by
  obtain ⟨l, hl⟩ := m
  simp only [size, insert]
  simp only [lookup, Option.map_eq_some_iff] at h
  induction l with
  | nil => simp at h
  | cons x rest ih =>
    obtain ⟨hx, hrest⟩ := List.pairwise_cons.mp hl
    rw [place]
    split
    · next hlt =>
      -- all keys lie above a key in front of them
      exfalso
      obtain ⟨e, hfind, -⟩ := h
      have heq : compare e.1 k = .eq := by simpa using List.find?_some hfind
      have hlater : compare k e.1 = .lt := by
        rcases List.mem_cons.mp (List.mem_of_find?_eq_some hfind) with rfl | he
        · exact hlt
        · exact Std.TransCmp.lt_trans hlt (hx e he)
      rw [Std.OrientedCmp.eq_symm heq] at hlater
      cases hlater
    · rfl
    · next hgt =>
      have hskip : (x :: rest).find? (fun e => compare e.1 k == .eq) =
          rest.find? fun e => compare e.1 k == .eq := by
        refine List.find?_cons_of_neg ?_
        rw [Std.OrientedCmp.lt_of_gt hgt]
        decide
      rw [hskip] at h
      rw [List.length_cons, List.length_cons, ih hrest h]

/-! ## Inserting in order -/

omit [Std.LawfulEqOrd α] in
/-- An entry above all others is placed at the end. -/
theorem place_append {l : List (α × β)} {k : α} {v : β}
    (h : ∀ e ∈ l, compare e.1 k = .lt) : place k v l = l ++ [(k, v)] := by
  induction l with
  | nil => rfl
  | cons x rest ih =>
    have hx : compare k x.1 = .gt := Std.OrientedCmp.gt_of_lt (h x List.mem_cons_self)
    rw [place, hx, List.cons_append, ih fun e he => h e (List.mem_cons_of_mem _ he)]

omit [Std.LawfulEqOrd α] in
/-- Inserting the entries in order restores the map. -/
theorem foldl_insert (m : OrderedMap α β) :
    m.toList.foldl (fun n e => n.insert e.1 e.2) ∅ = m := by
  -- more generally: entries behind all those of a map are added at its end
  suffices hgen : ∀ (l : List (α × β)) (n : OrderedMap α β),
      (n.toList ++ l).Pairwise (fun a b => compare a.1 b.1 = .lt) →
      (l.foldl (fun n e => n.insert e.1 e.2) n).toList = n.toList ++ l by
    exact ext (hgen m.toList ∅ m.ascending)
  intro l
  induction l with
  | nil =>
    intro n _
    rw [List.foldl_nil, List.append_nil]
  | cons x rest ih =>
    intro n hasc
    have hplace : (n.insert x.1 x.2).toList = n.toList ++ [x] := by
      apply place_append
      intro e he
      exact (List.pairwise_append.mp hasc).2.2 e he x List.mem_cons_self
    rw [List.foldl_cons, ih, hplace, List.append_assoc, List.singleton_append]
    rw [hplace, List.append_assoc, List.singleton_append]
    exact hasc

end OrderedMap

end PagedTables
