/-
# Rows in a store

Where the entries of a store are the rows of some tables, the operations on rows find and change
what they would find and change in the tables themselves.

* `Layout.Holds.between_eq` : the entries between two keys are the rows between them;
* `Layout.Holds.whole_eq` : the entries under a prefix are all rows of a table;
* `Database.getRow_eq` : looking a row up;
* `Layout.Holds.put_eq`, `Layout.Holds.get?_isSome` : what the store does to a row.
-/
import Mathlib
import PagedTables.Proofs.Tables.Layout
import PagedTables.Proofs.Tables.Scan

namespace PagedTables

/-! ## Sizes -/

/-- Escaping takes a byte more for each byte that is zero or one. -/
theorem length_escapeEach (b : Bytes) :
    (escapeEach b).length = b.length + b.countP (· ≤ 1) := by
  induction b with
  | nil => rfl
  | cons x rest ih =>
    by_cases hx : mustEscape x
    · have hle : x ≤ 1 := by simpa [mustEscape] using hx
      simp only [escapeEach, hx, if_true, List.length_cons, ih, List.countP_cons, hle,
        decide_true]
      omega
    · have hle : ¬ x ≤ 1 := by simpa [mustEscape] using hx
      simp only [escapeEach, hx, Bool.false_eq_true, if_false, List.length_cons, ih,
        List.countP_cons, hle, decide_false]
      omega

/-- A value takes as many bytes as its size says. -/
theorem length_encodeValue (v : Value) : (encodeValue v).length = v.encodedSize := by
  cases v with
  | int64 n => exact Bytes.length_ofNatBE _ _
  | bytes b =>
    rw [encodeValue, escape_eq_escapeEach, List.length_append, length_escapeEach]
    rfl

/-- The bytes that several values take. -/
theorem length_encodeTuple (values : List Value) :
    (encodeTuple values).length = tupleSize values := by
  rw [encodeTuple, List.length_flatMap, tupleSize]
  simp only [length_encodeValue]

/-- A key takes as many bytes as its prefix and its values. -/
theorem length_encodeKey (p : UInt32) (key : List Value) :
    (encodeKey p key).length = prefixSize + tupleSize key := by
  rw [encodeKey, List.length_append, length_encodeTuple, prefixKey, Bytes.length_ofNatBE]

namespace MemoryStore

/-- The limits of a store. -/
def limits (m : MemoryStore) : Limits :=
  ⟨m.maxKeySize, m.maxValueSize⟩

/-- An entry is checked by the sizes of its values. -/
theorem checkEntry_eq (m : MemoryStore) (p : UInt32) (key others : List Value) :
    m.checkEntry (encodeKey p key) (encodeTuple others) = m.limits.check key others := by
  have hne : (encodeKey p key).isEmpty = false := by
    rw [List.isEmpty_eq_false_iff, ne_eq, ← List.length_eq_zero_iff, length_encodeKey, prefixSize]
    omega
  rw [checkEntry, hne, length_encodeKey, length_encodeTuple]
  rfl

end MemoryStore

/-! ## Rows of records -/

namespace Table

variable {t : Table} {r : Record} {key others : List Value}

/-- A full record sets a row of the right types. -/
theorem typed_of_rowOf (hs : t.schema.Sound) (h : t.rowOf r = .ok (key, others)) :
    t.schema.HasKey key ∧ t.schema.HasOthers others := by
  obtain ⟨values, hvalues, hsplit⟩ := Except.map_eq_ok_iff.mp h
  obtain ⟨rfl, rfl⟩ := Prod.mk.inj hsplit
  have hsets := (Record.exactly_eq_ok_iff hs).mp hvalues
  exact ⟨hsets.hasKey_take hs, hsets.hasOthers_drop hs⟩

/-- The key of a record has the types of the key columns. -/
theorem hasKey_of_keyOf (hs : t.schema.Sound) (h : t.keyOf r = .ok key) : t.schema.HasKey key :=
  ((Record.exactly_eq_ok_iff hs).mp h).hasKey

end Table

/-! ## Entries between keys -/

/-- The keys of a table lie between its prefix and the next one, and no others do. -/
theorem holds_prefixKey_iff {p q : UInt32} (hlast : p.toNat < maxWord32) (key : List Value) :
    (Comparison.atLeast.holds (encodeKey q key) (prefixKey p) &&
      Comparison.below.holds (encodeKey q key) (prefixKey (p + 1))) = true ↔ q = p := by
  have hsize : p.toNat + 1 < UInt32.size := Nat.succ_lt_succ hlast
  have hnext : (p + 1).toNat = p.toNat + 1 := toNat_succ hsize
  have hlower := compare_prefixKey_append q p (encodeTuple key) []
  have hupper := compare_prefixKey_append q (p + 1) (encodeTuple key) []
  rw [List.append_nil] at hlower hupper
  rw [Bool.and_eq_true, Comparison.holds, Comparison.holds, encodeKey, hlower, hupper, hnext]
  have hge : ∀ tuple : Bytes, (compare tuple []).isGE = true := by
    intro tuple
    cases tuple <;> rfl
  have hlt : ∀ tuple : Bytes, (compare tuple []).isLT = false := by
    intro tuple
    cases tuple <;> rfl
  constructor
  · rintro ⟨hlower, hupper⟩
    rcases Nat.lt_trichotomy q.toNat p.toNat with hq | hq | hq
    · rw [Nat.compare_eq_lt.mpr hq] at hlower
      cases hlower
    · exact UInt32.toNat_inj.mp hq
    · rcases Nat.lt_or_eq_of_le (Nat.succ_le_of_lt hq) with hq | hq
      · rw [Nat.compare_eq_gt.mpr hq] at hupper
        cases hupper
      · rw [Nat.compare_eq_eq.mpr hq.symm, Ordering.eq_then] at hupper
        exact absurd hupper (by rw [Comparison.accepts, hlt]; exact Bool.false_ne_true)
  · rintro rfl
    rw [Nat.compare_eq_eq.mpr rfl, Nat.compare_eq_lt.mpr (Nat.lt_succ_self _), Ordering.eq_then]
    exact ⟨hge _, rfl⟩

/-- A row as it is stored. -/
def storedRow (p : UInt32) (row : List Value × List Value) : Entry :=
  (encodeKey p row.1, encodeTuple row.2)

/-- The rows between two bounds on their keys, in the direction of the first. -/
def Table.between (t : Table) (startBound : Comparison) (startKey : List Value)
    (stopBound : Comparison) (stop : List Value) : List (List Value × List Value) :=
  (t.rows.inOrder startBound.ascends).filter fun row =>
    startBound.accepts (compare row.1 startKey) && stopBound.accepts (compare row.1 stop)

namespace Layout.Holds

variable {l : Layout} {entries : Entries} {p : UInt32} {t : Table}
variable {key others : List Value} {startBound stopBound : Comparison}
variable {startKey stop : List Value}

/-- A stored row of a table is decoded to its values. -/
theorem decodeRow_eq (h : l.Holds entries) (ht : l p = some t)
    (hrow : t.rows.lookup key = some others) :
    Scan.decodeRow t.schema (storedRow p (key, others)) = .ok (key ++ others) := by
  obtain ⟨hkey, hothers⟩ := (h.sound ht).row hrow
  have hdecodeKey : decodeKey t.schema.keyPrefix (t.schema.types.take t.schema.keyCount)
      (encodeKey p key) = .ok key :=
    decodeKey_eq_ok_iff.mpr ⟨hkey, by rw [h.prefix_eq ht]⟩
  have hdecodeOthers : decodeTuple (t.schema.types.drop t.schema.keyCount)
      (encodeTuple others) = .ok others :=
    decodeTuple_eq_ok_iff.mpr ⟨hothers, rfl⟩
  rw [Scan.decodeRow, storedRow, hdecodeKey, Action.except_ok_bind, hdecodeOthers]
  rfl

/-- An entry between two keys of a table belongs to the table: on one side its prefix would be
too small, on the other too large. -/
theorem owner_of_between (h : l.Holds entries) (hfacing : startBound.ascends ≠ stopBound.ascends)
    {k v : Bytes} (hk : entries.lookup k = some v)
    (hstart : startBound.holds k (encodeKey p startKey))
    (hstop : stopBound.holds k (encodeKey p stop)) :
    ∃ t key, l p = some t ∧ t.schema.HasKey key ∧ k = encodeKey p key := by
  obtain ⟨q, t, key, ht, hkey, rfl⟩ := h.owner hk
  have hstart := Comparison.ne_direction_of_accepts hstart
  have hstop := Comparison.ne_direction_of_accepts hstop
  -- with another prefix, both references would lie on the same side of the key
  have hq : q = p := by
    by_contra hne
    rcases UInt32.lt_or_lt_of_ne hne with hlt | hlt
    · rw [compare_encodeKey_of_lt hlt] at hstart hstop
      revert hfacing hstart hstop
      cases startBound.ascends <;> cases stopBound.ascends <;> decide
    · rw [Std.OrientedCmp.gt_of_lt (compare_encodeKey_of_lt hlt _ _)] at hstart
      rw [Std.OrientedCmp.gt_of_lt (compare_encodeKey_of_lt hlt _ _)] at hstop
      revert hfacing hstart hstop
      cases startBound.ascends <;> cases stopBound.ascends <;> decide
  subst hq
  exact ⟨t, key, ht, hkey, rfl⟩

/-- The entries that a test of keys selects, if it selects none of another table. -/
theorem filter_eq (h : l.Holds entries) (ht : l p = some t) {f : Bytes → Bool}
    {g : List Value → Bool}
    (howner : ∀ {k v}, entries.lookup k = some v → f k = true →
      ∃ t key, l p = some t ∧ t.schema.HasKey key ∧ k = encodeKey p key)
    (hrows : ∀ {key}, t.schema.HasKey key → f (encodeKey p key) = g key) :
    (entries.toList.filter fun e => f e.1) =
      (t.rows.toList.filter fun row => g row.1).map (storedRow p) := by
  have htyped : ∀ row ∈ t.rows.toList, t.schema.HasKey row.1 := fun row hrow =>
    ((h.sound ht).row ((OrderedMap.mem_toList_iff _).mp hrow)).1
  -- both lists ascend, so that they agree if they have the same entries
  refine OrderedMap.eq_of_mem_iff (entries.ascending.filter _) ?_ ?_
  · rw [List.pairwise_map]
    refine (List.Pairwise.imp_of_mem ?_ t.rows.ascending).filter _
    intro a b ha hb hlt
    exact (compare_encodeKey p ((htyped a ha).types_eq (htyped b hb))).trans hlt
  · rintro ⟨k, v⟩
    simp only [List.mem_filter, List.mem_map, OrderedMap.mem_toList_iff]
    constructor
    · rintro ⟨hk, hkept⟩
      obtain ⟨u, key, hu, hkey, rfl⟩ := howner hk hkept
      obtain rfl := Option.some.inj (ht.symm.trans hu)
      obtain ⟨others, hothers, rfl⟩ := (h.lookup_encodeKey_iff ht).mp ⟨hk, hkey⟩
      rw [hrows hkey] at hkept
      exact ⟨(key, others), ⟨(OrderedMap.mem_toList_iff _).mpr hothers, hkept⟩, rfl⟩
    · rintro ⟨⟨key, others⟩, ⟨hrow, hkept⟩, heq⟩
      obtain ⟨rfl, rfl⟩ := Prod.mk.inj heq
      have hkey := htyped _ hrow
      rw [OrderedMap.mem_toList_iff] at hrow
      obtain ⟨hk, -⟩ := (h.lookup_encodeKey_iff ht).mpr ⟨others, hrow, rfl⟩
      exact ⟨hk, (hrows hkey).trans hkept⟩

/-- **The entries between two keys** of a table are its rows between them. -/
theorem between_eq (h : l.Holds entries) (ht : l p = some t)
    (hfacing : startBound.ascends ≠ stopBound.ascends) (hstart : t.schema.HasKey startKey)
    (hstop : t.schema.HasKey stop) :
    Scan.between entries startBound (encodeKey p startKey) stopBound (encodeKey p stop) =
      (t.between startBound startKey stopBound stop).map (storedRow p) := by
  have hfilter : (entries.toList.filter fun e => startBound.holds e.1 (encodeKey p startKey) &&
        stopBound.holds e.1 (encodeKey p stop)) =
      (t.rows.toList.filter fun row => startBound.accepts (compare row.1 startKey) &&
        stopBound.accepts (compare row.1 stop)).map (storedRow p) := by
    refine h.filter_eq ht (f := fun k => startBound.holds k (encodeKey p startKey) &&
        stopBound.holds k (encodeKey p stop)) (g := fun key =>
          startBound.accepts (compare key startKey) && stopBound.accepts (compare key stop)) ?_ ?_
    · intro k v hk hkept
      obtain ⟨hlower, hupper⟩ := Bool.and_eq_true_iff.mp hkept
      exact h.owner_of_between hfacing hk hlower hupper
    · intro key hkey
      rw [Comparison.holds, Comparison.holds, compare_encodeKey p (hkey.types_eq hstart),
        compare_encodeKey p (hkey.types_eq hstop)]
  unfold Scan.between Table.between OrderedMap.inOrder
  split
  · exact hfilter
  · rw [List.filter_reverse, List.filter_reverse, List.map_reverse, hfilter]

/-- **The entries of a table** lie between its prefix and the next one. -/
theorem whole_eq (h : l.Holds entries) (ht : l p = some t) (hlast : p.toNat < maxWord32) :
    Scan.between entries .atLeast (prefixKey p) .below (Database.tableEnd p) =
      t.rows.toList.map (storedRow p) := by
  have hend : Database.tableEnd p = prefixKey (p + 1) := if_neg (Nat.ne_of_lt hlast)
  have hfilter := h.filter_eq ht (f := fun k => Comparison.atLeast.holds k (prefixKey p) &&
    Comparison.below.holds k (prefixKey (p + 1))) (g := fun _ => true) ?_ ?_
  · rw [List.filter_true] at hfilter
    rw [hend]
    exact hfilter
  · intro k v hk hkept
    obtain ⟨q, u, key, hu, hkey, rfl⟩ := h.owner hk
    obtain rfl := (holds_prefixKey_iff hlast key).mp hkept
    exact ⟨u, key, hu, hkey, rfl⟩
  · intro key hkey
    exact (holds_prefixKey_iff hlast key).mpr rfl

/-! ## Looking up -/

/-- The row under a key is the one between the key and itself. -/
theorem between_self (t : Table) (key : List Value) :
    (t.between .atLeast key .atMost key).head? = (t.rows.lookup key).map fun others =>
      (key, others) := by
  rw [← OrderedMap.head?_filter_eq, Table.between]
  simp only [Comparison.accepts_atLeast_and_atMost]
  rfl

/-- The store has a key exactly if the table has the row. -/
theorem get?_isSome {m : MemoryStore} (h : l.Holds m.entries) (ht : l p = some t)
    (hkey : t.schema.HasKey key) :
    (m.get? (encodeKey p key)).isSome = (t.rows.lookup key).isSome := by
  rw [MemoryStore.get?, h.lookup_eq ht hkey, Option.isSome_map]

/-! ## Writing -/

/-- **Writing a row** in memory: it is checked against the limits, and changes the store exactly
if it changes the table. -/
theorem put_eq {m : MemoryStore} (h : l.Holds m.entries) (ht : l p = some t)
    (hkey : t.schema.HasKey key) (hothers : t.schema.HasOthers others) (mode : WriteMode) :
    m.put (encodeKey p key) (encodeTuple others) mode =
      (m.limits.check key others).map fun _ =>
        (WriteOutcome.of mode others (t.rows.lookup key),
          if (WriteOutcome.of mode others (t.rows.lookup key)).updated then
            m.load (encodeKey p key) (encodeTuple others)
          else m) := by
  have hget : m.get? (encodeKey p key) = (t.rows.lookup key).map encodeTuple :=
    h.lookup_eq ht hkey
  rw [MemoryStore.put, m.checkEntry_eq, hget]
  cases m.limits.check key others with
  | error e => rfl
  | ok _ =>
    rw [Action.except_ok_bind]
    cases hrow : t.rows.lookup key with
    | none =>
      cases mode <;> rfl
    | some old =>
      -- the bytes agree exactly if the values do
      have hsame : encodeTuple old = encodeTuple others ↔ old = others := by
        constructor
        · intro heq
          exact encodeTuple_inj (((h.sound ht).row hrow).2.trans (Eq.symm hothers)) heq
        · rintro rfl
          rfl
      simp only [Option.map_some, hsame, WriteOutcome.of]
      split
      · rfl
      · rfl

/-- A write in any case leaves the row in the store. -/
theorem upsert_eq {m : MemoryStore} (h : l.Holds m.entries) (ht : l p = some t)
    (hkey : t.schema.HasKey key) (hothers : t.schema.HasOthers others) :
    m.put (encodeKey p key) (encodeTuple others) .upsert =
      (m.limits.check key others).map fun _ =>
        (WriteOutcome.of .upsert others (t.rows.lookup key),
          m.load (encodeKey p key) (encodeTuple others)) := by
  rw [h.put_eq ht hkey hothers]
  congr 1
  funext _
  congr 1
  split
  · rfl
  · next hsame =>
    -- only a row that is there already is not written
    have hrow : t.rows.lookup key = some others := by
      revert hsame
      cases t.rows.lookup key with
      | none => simp [WriteOutcome.of]
      | some old =>
        by_cases heq : old = others
        · simp [heq]
        · simp [WriteOutcome.of, heq]
    have hentry : m.entries.lookup (encodeKey p key) = some (encodeTuple others) := by
      rw [h.lookup_eq ht hkey, hrow]
      rfl
    rw [MemoryStore.load, OrderedMap.insert_of_lookup hentry]

end Layout.Holds

namespace Database

variable {κ : Type} [Store κ] {l : Layout} {p : UInt32} {t : Table}

/-- **Looking a row up** finds what the table has. -/
theorem getRow_eq {db : Database κ} (h : l.Holds db.entries) (ht : l p = some t) (r : Record) :
    getRow t.schema r db = Action.ofExcept (t.fetch r) db := by
  unfold getRow Table.fetch
  cases hselect : r.select t.schema t.schema.keyColumns with
  | error e => rfl
  | ok key =>
    have hkey := ((Record.select_keyColumns_eq_ok_iff (h.sound ht).schema).mp hselect).1
    have hentry : Scan.entry? (Scan.start db.entries t.schema .atLeast (encodeKey p key) .atMost
        (encodeKey p key)) =
          (t.rows.lookup key).map fun others => storedRow p (key, others) := by
      rw [Scan.entry?_start rfl, h.between_eq ht (by decide) hkey hkey, List.head?_map,
        Layout.Holds.between_self, Option.map_map]
      rfl
    rw [Action.ofExcept_bind_ok, Action.get_bind, h.prefix_eq ht]
    cases hrow : t.rows.lookup key with
    | none =>
      rw [hrow] at hentry
      simp only [Scan.isValid, hentry]
      simp [Except.map, hrow]
      rfl
    | some others =>
      rw [hrow] at hentry
      have hfetch := fetch_eq hentry (h.decodeRow_eq ht hrow) db
      simp only [Scan.isValid, hentry, Option.map_some, Option.isSome_some, if_true]
      rw [Action.bind_ok hfetch]
      simp [Except.map, hrow]
      rfl

end Database

end PagedTables
