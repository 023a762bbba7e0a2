/-
# Ordered maps

A finite map kept as the list of its entries in ascending key order. The list is the map: what
an operation does is said on `toList`, and the order is a field of the type.

* `OrderedMap.lookup_insert` : inserting changes the value at one key;
* `OrderedMap.lookup_erase` : erasing removes one key.
-/

namespace PagedTables

universe u v

/-- A finite map as the list of its entries, with strictly ascending keys. -/
structure OrderedMap (α : Type u) (β : Type v) [Ord α] where
  /-- The entries in key order. -/
  toList : List (α × β)
  /-- Each key lies below all later ones. -/
  ascending : toList.Pairwise fun a b => compare a.1 b.1 = .lt

namespace OrderedMap

variable {α : Type u} {β : Type v} [Ord α]

/-- The map without entries. -/
def empty : OrderedMap α β :=
  ⟨[], .nil⟩

instance : EmptyCollection (OrderedMap α β) :=
  ⟨empty⟩

instance : Inhabited (OrderedMap α β) :=
  ⟨empty⟩

/-- The number of entries. -/
def size (m : OrderedMap α β) : Nat :=
  m.toList.length

/-- The value stored under a key. -/
def lookup (m : OrderedMap α β) (k : α) : Option β :=
  (m.toList.find? fun e => compare e.1 k == .eq).map (·.2)

/-! ## Insertion -/

/-- Puts an entry into its place in an ascending list, over an entry with an equal key. -/
def place (k : α) (v : β) : List (α × β) → List (α × β)
  | [] => [(k, v)]
  | e :: rest =>
    match compare k e.1 with
    | .lt => (k, v) :: e :: rest
    | .eq => (k, v) :: rest
    | .gt => e :: place k v rest

theorem mem_place {k : α} {v : β} {l : List (α × β)} {e : α × β} (h : e ∈ place k v l) :
    e = (k, v) ∨ e ∈ l := by
  induction l with
  | nil => simpa [place] using h
  | cons x rest ih =>
      simp only [place] at h
      split at h
      · simpa using h
      · rcases List.mem_cons.mp h with h | h
        · exact .inl h
        · exact .inr (List.mem_cons_of_mem _ h)
      · rcases List.mem_cons.mp h with h | h
        · exact .inr (h ▸ List.mem_cons_self)
        · exact (ih h).imp_right (List.mem_cons_of_mem _)

theorem ascending_place [Std.TransOrd α] (k : α) (v : β) {l : List (α × β)}
    (h : l.Pairwise fun a b => compare a.1 b.1 = .lt) :
    (place k v l).Pairwise fun a b => compare a.1 b.1 = .lt := by
  induction l with
  | nil => simp [place]
  | cons x rest ih =>
      obtain ⟨hx, hrest⟩ := List.pairwise_cons.mp h
      simp only [place]
      split
      next hk =>
        refine List.pairwise_cons.mpr ⟨fun e he => ?_, h⟩
        rcases List.mem_cons.mp he with rfl | he
        · exact hk
        · exact Std.TransCmp.lt_trans hk (hx e he)
      next hk =>
        exact List.pairwise_cons.mpr
          ⟨fun e he => Std.TransCmp.lt_of_eq_of_lt hk (hx e he), hrest⟩
      next hk =>
        refine List.pairwise_cons.mpr ⟨fun e he => ?_, ih hrest⟩
        rcases mem_place he with rfl | he
        · exact Std.OrientedCmp.lt_of_gt hk
        · exact hx e he

/-- Stores a value under a key, in place of the one that was there. -/
def insert [Std.TransOrd α] (m : OrderedMap α β) (k : α) (v : β) : OrderedMap α β :=
  ⟨place k v m.toList, ascending_place k v m.ascending⟩

/-- Collects entries one by one; of entries with equal keys the last one stays. -/
def ofList [Std.TransOrd α] (l : List (α × β)) : OrderedMap α β :=
  l.foldl (fun m e => m.insert e.1 e.2) ∅

/-! ## Removal and selection -/

/-- Keeps the entries that satisfy a test. -/
def filter (m : OrderedMap α β) (keep : α × β → Bool) : OrderedMap α β :=
  ⟨m.toList.filter keep, m.ascending.filter keep⟩

/-- Removes a key. -/
def erase (m : OrderedMap α β) (k : α) : OrderedMap α β :=
  m.filter fun e => compare e.1 k != .eq

/-! ## Looking up after a change -/

theorem lookup_insert [Std.TransOrd α] (m : OrderedMap α β) (k k' : α) (v : β) :
    (m.insert k v).lookup k' = if compare k k' = .eq then some v else m.lookup k' := by
  obtain ⟨l, h⟩ := m
  simp only [lookup, insert]
  induction l with
  | nil => by_cases hk : compare k k' = .eq <;> simp [place, hk]
  | cons x rest ih =>
      obtain ⟨-, hrest⟩ := List.pairwise_cons.mp h
      simp only [place]
      split
      next => by_cases hk : compare k k' = .eq <;> simp [hk]
      next heq =>
        have hc : compare x.1 k' = compare k k' := (Std.TransCmp.congr_left heq).symm
        by_cases hk : compare k k' = .eq <;> simp [hk, hc]
      next hgt =>
        by_cases hx : compare x.1 k' = .eq
        · have hk : compare k k' ≠ .eq := by
            rw [← Std.TransCmp.congr_right hx, hgt]
            decide
          simp [hx, hk]
        · simpa [hx] using ih hrest

theorem lookup_erase [Std.TransOrd α] (m : OrderedMap α β) (k k' : α) :
    (m.erase k).lookup k' = if compare k k' = .eq then none else m.lookup k' := by
  obtain ⟨l, h⟩ := m
  simp only [lookup, erase, filter]
  clear h
  induction l with
  | nil => simp
  | cons x rest ih =>
      by_cases hx : compare x.1 k = .eq
      · have hc : compare x.1 k' = compare k k' := Std.TransCmp.congr_left hx
        by_cases hk : compare k k' = .eq
        · simpa [hx, hk] using ih
        · simpa [hx, hk, hc] using ih
      · by_cases hk' : compare x.1 k' = .eq
        · have hk : compare k k' ≠ .eq := by
            intro hk
            exact hx (by rw [Std.TransCmp.congr_right hk, hk'])
          simp [hx, hk, hk']
        · simpa [hx, hk'] using ih

end OrderedMap

end PagedTables
