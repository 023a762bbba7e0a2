/-
# Tables side by side

All tables share one ordered store. Each has a prefix, and its rows are the entries whose keys
start with it, so that a change of one table leaves the rows of the others where they are.

* `Layout.Holds` : the entries of a store are the rows of some tables;
* `Layout.Holds.put`, `Layout.Holds.erase` : changing a row of one table;
* `Layout.Holds.add` : a table without rows at a new prefix.
-/
import Mathlib
import PagedTables.Proofs.Keys.Codec
import PagedTables.Proofs.Tables.Record
import PagedTables.Proofs.Tables.Reference

namespace PagedTables

/-! ## Keys of tables -/

/-- Keys of different tables differ. -/
theorem encodeKey_ne {p q : UInt32} (h : p ≠ q) (a b : List Value) :
    encodeKey p a ≠ encodeKey q b := by
  intro heq
  have hself : compare (encodeKey p a) (encodeKey q b) = .eq := by
    rw [heq]
    exact Std.ReflCmp.compare_self
  rcases UInt32.lt_or_lt_of_ne h with hlt | hlt
  · rw [compare_encodeKey_of_lt hlt] at hself
    cases hself
  · rw [Std.OrientedCmp.gt_of_lt (compare_encodeKey_of_lt hlt b a)] at hself
    cases hself

/-- A sound table: its schema is, and each row has the types of the columns. -/
structure Table.Sound (t : Table) : Prop where
  schema : t.schema.Sound
  row : ∀ {key others}, t.rows.lookup key = some others →
    t.schema.HasKey key ∧ t.schema.HasOthers others

/-- The keys of a table have one shape. -/
theorem Schema.HasKey.types_eq {s : Schema} {a b : List Value} (ha : s.HasKey a)
    (hb : s.HasKey b) : a.map Value.type = b.map Value.type :=
  ha.trans (Eq.symm hb)

/-! ## Layouts -/

/-- The tables of a store by their prefixes. -/
abbrev Layout := UInt32 → Option Table

namespace Layout

/-- The entries of a store are the rows of the tables, each under its key. -/
structure Holds (l : Layout) (entries : Entries) : Prop where
  prefix_eq : ∀ {p t}, l p = some t → t.schema.keyPrefix = p
  sound : ∀ {p t}, l p = some t → t.Sound
  lookup_eq : ∀ {p t key}, l p = some t → t.schema.HasKey key →
    entries.lookup (encodeKey p key) = (t.rows.lookup key).map encodeTuple
  owner : ∀ {k v}, entries.lookup k = some v →
    ∃ p t key, l p = some t ∧ t.schema.HasKey key ∧ k = encodeKey p key

variable {l : Layout} {entries entries' : Entries} {p : UInt32} {t : Table}
variable {key others : List Value}

/-- The layout with a table at a prefix, in place of what was there. -/
def set (l : Layout) (p : UInt32) (t : Table) : Layout :=
  Function.update l p (some t)

@[simp] theorem set_self (l : Layout) (p : UInt32) (t : Table) : l.set p t p = some t :=
  Function.update_self ..

theorem set_of_ne {q : UInt32} (l : Layout) (t : Table) (h : q ≠ p) : l.set p t q = l q :=
  Function.update_of_ne h ..

/-- A table is there after another one was put if it is that one, or was there under another
prefix. -/
theorem set_eq_some_iff {q : UInt32} {u : Table} :
    l.set p t q = some u ↔ q = p ∧ t = u ∨ q ≠ p ∧ l q = some u := by
  by_cases hq : q = p
  · subst hq
    simp
  · simp [set_of_ne l t hq, hq]

/-- An empty store has no tables. -/
theorem Holds.empty : Holds (fun _ => none) ∅ where
  prefix_eq := nofun
  sound := nofun
  lookup_eq := nofun
  owner := nofun

namespace Holds

/-- One row of one table is changed, in the table and in the store. -/
theorem change (h : l.Holds entries) (ht : l p = some t) (hkey : t.schema.HasKey key)
    (row : Option (List Value))
    (hrow : ∀ others, row = some others → t.schema.HasOthers others)
    {rows : Rows}
    (hrows : ∀ k, rows.lookup k = if compare key k = .eq then row else t.rows.lookup k)
    (hentries : ∀ k, entries'.lookup k =
      if compare (encodeKey p key) k = .eq then row.map encodeTuple else entries.lookup k) :
    Holds (l.set p { t with rows := rows }) entries' where
  prefix_eq := by
    intro q u hu
    rcases set_eq_some_iff.mp hu with ⟨rfl, rfl⟩ | ⟨-, hu⟩
    · have hplaced := h.prefix_eq ht
      exact hplaced
    · exact h.prefix_eq hu
  sound := by
    intro q u hu
    rcases set_eq_some_iff.mp hu with ⟨rfl, rfl⟩ | ⟨-, hu⟩
    · refine ⟨(h.sound ht).schema, ?_⟩
      intro k others hk
      rw [hrows] at hk
      split at hk
      · next heq =>
        obtain rfl := Std.LawfulEqCmp.eq_of_compare heq
        exact ⟨hkey, hrow others hk⟩
      · exact (h.sound ht).row hk
    · exact h.sound hu
  lookup_eq := by
    intro q u k hu hk
    rcases set_eq_some_iff.mp hu with ⟨rfl, rfl⟩ | ⟨hq, hu⟩
    · rw [hentries, hrows, compare_encodeKey q (hkey.types_eq hk)]
      split
      · rfl
      · exact h.lookup_eq ht hk
    · rw [hentries, if_neg]
      · exact h.lookup_eq hu hk
      · intro heq
        exact encodeKey_ne (Ne.symm hq) _ _ (Std.LawfulEqCmp.eq_of_compare heq)
  owner := by
    intro k v hk
    rw [hentries] at hk
    split at hk
    · next heq =>
      obtain rfl := Std.LawfulEqCmp.eq_of_compare heq
      exact ⟨p, _, key, set_self .., hkey, rfl⟩
    · obtain ⟨q, u, key', hu, hkey', rfl⟩ := h.owner hk
      by_cases hq : q = p
      · subst hq
        obtain rfl := Option.some.inj (ht.symm.trans hu)
        exact ⟨q, _, key', set_self .., hkey', rfl⟩
      · exact ⟨q, u, key', set_eq_some_iff.mpr (.inr ⟨hq, hu⟩), hkey', rfl⟩

/-- **A row is stored** under its key. -/
theorem put (h : l.Holds entries) (ht : l p = some t) (hkey : t.schema.HasKey key)
    (hothers : t.schema.HasOthers others) :
    Holds (l.set p (t.put key others))
      (entries.insert (encodeKey p key) (encodeTuple others)) := by
  refine h.change ht hkey (some others) ?_ ?_ ?_
  · rintro _ ⟨⟩
    exact hothers
  · intro k
    exact OrderedMap.lookup_insert ..
  · intro k
    exact OrderedMap.lookup_insert ..

/-- **A row is removed** with its key. -/
theorem erase (h : l.Holds entries) (ht : l p = some t) (hkey : t.schema.HasKey key) :
    Holds (l.set p (t.erase key)) (entries.erase (encodeKey p key)) := by
  refine h.change ht hkey none ?_ ?_ ?_
  · nofun
  · intro k
    exact OrderedMap.lookup_erase ..
  · intro k
    exact OrderedMap.lookup_erase ..

/-- Nothing is stored under a prefix that no table has. -/
theorem vacant (h : l.Holds entries) (hp : l p = none) (key : List Value) :
    entries.lookup (encodeKey p key) = none := by
  cases hentry : entries.lookup (encodeKey p key) with
  | none => rfl
  | some v =>
    -- the entry would belong to a table that has another prefix
    obtain ⟨q, u, key', hu, -, heq⟩ := h.owner hentry
    have hne : p ≠ q := by
      rintro rfl
      rw [hp] at hu
      cases hu
    exact absurd heq (encodeKey_ne hne _ _)

/-- **A new table** has no rows, so nothing is to be stored for it. It takes the place of a table
that has lost all its rows. -/
theorem place (h : l.Holds entries) (hvacant : ∀ key, entries.lookup (encodeKey p key) = none)
    {s : Schema} (hs : s.Sound) (hplaced : s.keyPrefix = p) :
    Holds (l.set p ⟨s, ∅⟩) entries where
  prefix_eq := by
    intro q u hu
    rcases set_eq_some_iff.mp hu with ⟨rfl, rfl⟩ | ⟨-, hu⟩
    · exact hplaced
    · exact h.prefix_eq hu
  sound := by
    intro q u hu
    rcases set_eq_some_iff.mp hu with ⟨rfl, rfl⟩ | ⟨-, hu⟩
    · exact ⟨hs, nofun⟩
    · exact h.sound hu
  lookup_eq := by
    intro q u k hu hk
    rcases set_eq_some_iff.mp hu with ⟨rfl, rfl⟩ | ⟨-, hu⟩
    · exact hvacant k
    · exact h.lookup_eq hu hk
  owner := by
    intro k v hk
    obtain ⟨q, u, key, hu, hkey, rfl⟩ := h.owner hk
    refine ⟨q, u, key, set_eq_some_iff.mpr (.inr ⟨?_, hu⟩), hkey, rfl⟩
    rintro rfl
    rw [hvacant] at hk
    cases hk

/-- A free prefix has no rows to lose. -/
theorem add (h : l.Holds entries) (hp : l p = none) {s : Schema} (hs : s.Sound)
    (hplaced : s.keyPrefix = p) : Holds (l.set p ⟨s, ∅⟩) entries :=
  h.place (h.vacant hp) hs hplaced

/-- The entries under the prefix of a table are its rows. -/
theorem lookup_encodeKey_iff (h : l.Holds entries) (ht : l p = some t) {v : Bytes} :
    entries.lookup (encodeKey p key) = some v ∧ t.schema.HasKey key ↔
      ∃ others, t.rows.lookup key = some others ∧ v = encodeTuple others := by
  constructor
  · rintro ⟨hv, hkey⟩
    rw [h.lookup_eq ht hkey, Option.map_eq_some_iff] at hv
    obtain ⟨others, hothers, rfl⟩ := hv
    exact ⟨others, hothers, rfl⟩
  · rintro ⟨others, hothers, rfl⟩
    have hkey := ((h.sound ht).row hothers).1
    rw [h.lookup_eq ht hkey, hothers]
    exact ⟨rfl, hkey⟩

end Holds

end Layout

end PagedTables
