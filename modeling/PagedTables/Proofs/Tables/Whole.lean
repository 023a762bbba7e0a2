/-
# Scans of whole tables

A scan of a table ends before the next prefix. The next prefix is above every key of the table,
but there is none after the last prefix: the five bytes that stand for it are not above a key of
that table whose first column starts with the same byte, and such rows are missed. Below the next
prefix there can also be a key that is too short to have a prefix, if the next prefix ends with a
zero byte; the scan fails on it.

* `Database.scanned_iff` : the keys between the ends of a scan;
* `Database.scanTable_exact` : the rows that a scan of a table reads.
-/
import PagedTables.Proofs.Keys.Codec
import PagedTables.Proofs.Keys.Order
import PagedTables.Proofs.Tables.Catalog
import PagedTables.Proofs.Tables.Following
import PagedTables.Proofs.Tables.Scan

namespace PagedTables

open PagedTables.Action

/-! ## Keys and prefixes -/

/-- The bytes of a number are those of its high part and those of its low part. -/
theorem Bytes.ofNatBE_add (width extra n : Nat) :
    ofNatBE (width + extra) n = ofNatBE width (n / 256 ^ extra) ++ ofNatBE extra n := by
  induction extra generalizing n with
  | zero => simp [ofNatBE, ofNatLE]
  | succ extra ih =>
    rw [← Nat.add_assoc, ofNatBE_succ, ofNatBE_succ, ih, Nat.div_div_eq_div_mul, List.append_assoc,
      Nat.pow_succ, Nat.mul_comm]

/-- A key that is long enough has a prefix. -/
theorem exists_prefixKey_append {key : Bytes} (h : prefixSize ≤ key.length) :
    ∃ p, key = prefixKey p ++ key.drop prefixSize := by
  have hlt : Bytes.toNatBE (key.take prefixSize) < UInt32.size := Bytes.toNatBE_take_lt h
  refine ⟨UInt32.ofNat (Bytes.toNatBE (key.take prefixSize)), ?_⟩
  rw [prefixKey, UInt32.toNat_ofNat_of_lt' hlt, Bytes.ofNatBE_toNatBE_take h,
    List.take_append_drop]

/-- How a key that is too short compares with a prefix: as its number with the first digits. -/
theorem compare_prefixKey_of_short {key : Bytes} {extra : Nat}
    (h : key.length + (extra + 1) = prefixSize) (p : UInt32) :
    compare key (prefixKey p) =
      (compare (Bytes.toNatBE key) (p.toNat / 256 ^ (extra + 1))).then .lt := by
  have hkey := Bytes.ofNatBE_toNatBE key
  have hlt := Bytes.toNatBE_take_lt (Nat.le_refl key.length)
  rw [List.take_length] at hlt
  have hdiv : p.toNat / 256 ^ (extra + 1) < 256 ^ key.length := by
    refine Nat.div_lt_of_lt_mul ?_
    rw [← Nat.pow_add, Nat.add_comm, h]
    exact p.toNat_lt
  have hcompare := Bytes.compare_ofNatBE_append hlt hdiv [] (Bytes.ofNatBE (extra + 1) p.toNat)
  rw [List.append_nil, hkey, ← Bytes.ofNatBE_add, h] at hcompare
  rw [prefixKey, hcompare, Bytes.ofNatBE_succ]
  cases Bytes.ofNatBE extra (p.toNat / 256) <;> rfl

namespace Database

/-- Tells whether a key lies between the ends of a scan of a table. -/
def scanned (p : UInt32) (key : Bytes) : Bool :=
  Comparison.atLeast.holds key (prefixKey p) && Comparison.below.holds key (tableEnd p)

/-- Tells whether a key of a table is not below the end of a scan, as far as its first byte behind
the prefix tells. -/
def missed (p : UInt32) (key : Bytes) : Bool :=
  p.toNat = maxWord32 && (key.drop prefixSize).head? = some 0xff

/-- A string is below the single last byte unless it starts with that byte. -/
theorem compare_lastByte (r : Bytes) : compare r [0xff] = .lt ↔ r.head? ≠ some 0xff := by
  cases r with
  | nil => exact iff_of_true rfl nofun
  | cons b r =>
    have hle : b.toNat ≤ 255 := Nat.le_of_lt_succ b.toNat_lt
    have hbyte : compare b 0xff = compare b.toNat 255 := UInt8.compare_eq_toNat_compare_toNat b 255
    rw [List.compare_cons_cons, hbyte, List.head?_cons, ne_eq, Option.some_inj,
      ← UInt8.toNat_inj]
    rcases Nat.lt_or_eq_of_le hle with hlt | heq
    · rw [Nat.compare_eq_lt.mpr hlt]
      exact iff_of_true rfl (Nat.ne_of_lt hlt)
    · rw [heq, Nat.compare_eq_eq.mpr rfl, Ordering.eq_then]
      refine iff_of_false ?_ (not_not.mpr rfl)
      cases r <;> exact nofun

/-- How a key compares with the end of the scan of a table. -/
theorem compare_tableEnd (p q : UInt32) (r : Bytes) :
    compare (prefixKey q ++ r) (tableEnd p) =
      if p.toNat = maxWord32 then (compare q.toNat p.toNat).then (compare r [0xff])
      else (compare q.toNat (p.toNat + 1)).then (compare r []) := by
  unfold tableEnd
  split
  · next hlast =>
    have hend : List.replicate (prefixSize + 1) 0xff = prefixKey p ++ [0xff] := by
      rw [prefixKey, hlast]
      decide
    rw [hend, compare_prefixKey_append]
  · next hlast =>
    have hcompare := compare_prefixKey_append q (p + 1) r []
    rwa [List.append_nil, toNat_succ_of_ne hlast] at hcompare

/-- **The keys between the ends of a scan** that are long enough are those of the table, except
for the ones that the scan of the last table misses. -/
theorem scanned_iff {p : UInt32} {key : Bytes} (h : prefixSize ≤ key.length) :
    scanned p key = true ↔ prefixKey p <+: key ∧ missed p key = false := by
  obtain ⟨q, hkey⟩ := exists_prefixKey_append h
  have hdrop : (prefixKey q ++ key.drop prefixSize).drop prefixSize = key.drop prefixSize := by
    rw [← hkey]
  generalize key.drop prefixSize = r at hkey hdrop
  subst hkey
  have hstart := compare_prefixKey_append q p r []
  rw [List.append_nil] at hstart
  rw [prefixKey_isPrefix_iff, scanned, missed, hdrop, Bool.and_eq_true, Comparison.holds,
    Comparison.holds, hstart, compare_tableEnd]
  rcases Nat.lt_trichotomy q.toNat p.toNat with hlt | heq | hgt
  · -- the key lies below the prefix
    rw [Nat.compare_eq_lt.mpr hlt]
    refine iff_of_false ?_ ?_
    · rintro ⟨h, -⟩
      cases h
    · rintro ⟨rfl, -⟩
      exact Nat.lt_irrefl _ hlt
  · obtain rfl := UInt32.toNat_inj.mp heq
    have hfrom : (compare r []).isGE = true := by
      cases r <;> rfl
    rw [Nat.compare_eq_eq.mpr rfl, Ordering.eq_then, Ordering.eq_then,
      Nat.compare_eq_lt.mpr (Nat.lt_succ_self _)]
    by_cases hlast : q.toNat = maxWord32
    · have hbelow := compare_lastByte r
      simp [hlast, hfrom, Comparison.accepts, Ordering.isLT_iff_eq_lt, hbelow]
    · simp [hlast, hfrom, Comparison.accepts]
  · -- the key lies at or above the next prefix
    have hne : p ≠ q := by
      rintro rfl
      exact Nat.lt_irrefl _ hgt
    have hlast : p.toNat ≠ maxWord32 := by
      have hlt : q.toNat < UInt32.size := q.toNat_lt
      rw [maxWord32]
      omega
    rw [if_neg hlast]
    refine iff_of_false (fun h => ?_) fun h => hne h.1
    have hnot := h.2
    rcases Nat.lt_or_eq_of_le (Nat.succ_le_of_lt hgt) with hlt | heq
    · rw [Nat.compare_eq_gt.mpr hlt] at hnot
      cases hnot
    · rw [Nat.compare_eq_eq.mpr heq.symm] at hnot
      cases r <;> cases hnot

/-- A key that is too short lies between the ends of a scan only below a prefix that ends with a
zero byte. -/
theorem mod_of_scanned {p : UInt32} {key : Bytes} (hshort : key.length < prefixSize)
    (h : scanned p key = true) : (p.toNat + 1) % 256 = 0 := by
  obtain ⟨extra, hextra⟩ : ∃ extra, key.length + (extra + 1) = prefixSize :=
    ⟨prefixSize - key.length - 1, by omega⟩
  have hcompare := compare_prefixKey_of_short hextra
  obtain ⟨hfrom, hto⟩ := (Bool.and_eq_true _ _).mp h
  rw [Comparison.holds, hcompare] at hfrom
  -- the digits of the key are above those of the prefix, and not above those of the next one
  have habove : p.toNat / 256 ^ (extra + 1) < Bytes.toNatBE key := by
    by_contra hnot
    rcases Nat.lt_or_eq_of_le (Nat.le_of_not_lt hnot) with hlt | heq
    · rw [Nat.compare_eq_lt.mpr hlt] at hfrom
      cases hfrom
    · rw [Nat.compare_eq_eq.mpr heq] at hfrom
      cases hfrom
  by_cases hlast : p.toNat = maxWord32
  · rw [hlast]
    decide
  · rw [tableEnd, if_neg hlast, Comparison.holds, hcompare, toNat_succ_of_ne hlast] at hto
    have hupto : Bytes.toNatBE key ≤ (p.toNat + 1) / 256 ^ (extra + 1) := by
      by_contra hnot
      rw [Nat.compare_eq_gt.mpr (Nat.lt_of_not_le hnot)] at hto
      cases hto
    have hextra' : extra < 4 := by
      rw [prefixSize] at hextra
      omega
    interval_cases extra <;> omega

/-! ## The scan of a table -/

variable {κ : Type}

/-- The entries between the ends of a scan of a table. -/
theorem between_scanTable (entries : Entries) (p : UInt32) :
    Scan.between entries .atLeast (prefixKey p) .below (tableEnd p) =
      entries.toList.filter fun e => scanned p e.1 :=
  rfl

/-- A scan of a table of a database in use is placed at its prefix, and the store stays as it
is. -/
theorem scanTable_ok [Store κ] {db t : Database κ} {name : String} {s : Schema}
    (hpoison : db.poison = none) (hresolve : resolve name db = .ok s t) :
    scanTable name db = .ok (Scan.start db.entries s .atLeast (prefixKey s.keyPrefix) .below
      (tableEnd s.keyPrefix)) t := by
  have hstore : t.store = db.store := (sameStore_resolve name).ok hresolve
  rw [scanTable, bind_ok (guarded_ok hpoison hresolve), entries, ← hstore]
  rfl

/-- The rows of a table are read if each of them can be decoded, and no other key lies between the
ends of the scan. -/
theorem collect_table {entries : Entries} {s : Schema}
    (hrows : ∀ e ∈ entries.toList, prefixKey s.keyPrefix <+: e.1 →
      ∃ values, Scan.decodeRow s e = .ok values)
    (hlong : ∀ e ∈ entries.toList, scanned s.keyPrefix e.1 → prefixSize ≤ e.1.length)
    (db : Database κ) :
    let rows := entries.toList.filter fun e =>
      prefixKey s.keyPrefix <+: e.1 ∧ missed s.keyPrefix e.1 = false
    ∃ values : Entry → List Value, (∀ e ∈ rows, Scan.decodeRow s e = .ok (values e)) ∧
      collect (Scan.start entries s .atLeast (prefixKey s.keyPrefix) .below
        (tableEnd s.keyPrefix)) db = .ok (rows.map fun e => Record.ofRow s (values e)) db := by
  intro rows
  have hbetween : Scan.between entries .atLeast (prefixKey s.keyPrefix) .below
      (tableEnd s.keyPrefix) = rows := by
    rw [between_scanTable]
    refine List.filter_congr fun e he => ?_
    by_cases hlength : prefixSize ≤ e.1.length
    · exact Bool.eq_iff_iff.mpr ((scanned_iff hlength).trans decide_eq_true_iff.symm)
    · have hnot : scanned s.keyPrefix e.1 = false :=
        Bool.eq_false_iff.mpr fun h => hlength (hlong e he h)
      rw [hnot]
      refine (decide_eq_false ?_).symm
      rintro ⟨hstarts, -⟩
      have hsize : (prefixKey s.keyPrefix).length = prefixSize := Bytes.length_ofNatBE _ _
      exact hlength (hsize ▸ hstarts.length_le)
  have hdecode : ∀ e ∈ rows, ∃ values, Scan.decodeRow s e = .ok values := by
    intro e he
    obtain ⟨hmem, hkey⟩ := List.mem_filter.mp he
    exact hrows e hmem (decide_eq_true_iff.mp hkey).1
  choose! values hvalues using hdecode
  have htake := take_start rfl (hbetween.trans rows.map_id.symm) hvalues entries.size db
  have hall : rows.take entries.size = rows :=
    List.take_of_length_le (List.length_filter_le _ _)
  rw [hall] at htake
  exact ⟨values, hvalues, htake⟩

/-- The first key between the ends of a scan that is too short to have a prefix is an error. -/
theorem collect_short {entries : Entries} {s : Schema}
    (hrows : ∀ e ∈ entries.toList, prefixKey s.keyPrefix <+: e.1 →
      ∃ values, Scan.decodeRow s e = .ok values)
    {e : Entry} (he : e ∈ entries.toList) (hscanned : scanned s.keyPrefix e.1)
    (hshort : e.1.length < prefixSize) (db : Database κ) :
    ∃ n < prefixSize, collect (Scan.start entries s .atLeast (prefixKey s.keyPrefix) .below
      (tableEnd s.keyPrefix)) db = .error (.undecodable (.shortInput prefixSize n))
        { db with poison := some (CodecError.shortInput prefixSize n).message } := by
  let inside := entries.toList.filter fun e => scanned s.keyPrefix e.1
  have hfound : (inside.find? fun e => e.1.length < prefixSize).isSome := by
    rw [List.find?_isSome]
    exact ⟨e, List.mem_filter.mpr ⟨he, hscanned⟩, decide_eq_true hshort⟩
  obtain ⟨x, hx⟩ := Option.isSome_iff_exists.mp hfound
  obtain ⟨hxshort, passed, rest, hinside, hpassed⟩ := List.find?_eq_some_iff_append.mp hx
  have hxshort : x.1.length < prefixSize := of_decide_eq_true hxshort
  have hundecodable : Scan.decodeRow s x = .error (.shortInput prefixSize x.1.length) := by
    rw [Scan.decodeRow, decodeKey, if_pos hxshort]
    rfl
  refine ⟨x.1.length, hxshort, ?_⟩
  refine take_undecodable Scan.ahead_start ((Scan.untilStop_start rfl).trans hinside) ?_
    hundecodable ?_ db
  · intro y hy
    have hylong : prefixSize ≤ y.1.length := by
      simpa using hpassed y hy
    have hyinside : y ∈ inside := by
      rw [hinside]
      exact List.mem_append_left _ hy
    obtain ⟨hmem, hyscanned⟩ := List.mem_filter.mp hyinside
    exact hrows y hmem ((scanned_iff hylong).mp hyscanned).1
  · have hlength : inside.length ≤ entries.size := List.length_filter_le _ _
    rw [hinside, List.length_append, List.length_cons] at hlength
    show passed.length < entries.size
    omega

/-- **The scan of a whole table.** If every entry whose key starts with the prefix of the table
can be decoded, a scan of the table reads the rows of these entries, each once and in the order of
their keys, except for those that start with the last byte under the last prefix. A key that is
too short to have a prefix, and lies between the ends all the same, is an error instead; there can
be one only if the next prefix ends with a zero byte. -/
theorem scanTable_exact [Store κ] {db t : Database κ} {name : String} {s : Schema}
    (hpoison : db.poison = none) (hresolve : resolve name db = .ok s t)
    (hrows : ∀ e ∈ db.entries.toList, prefixKey s.keyPrefix <+: e.1 →
      ∃ values, Scan.decodeRow s e = .ok values) :
    ∃ scan, scanTable name db = .ok scan t ∧
      ((∀ e ∈ db.entries.toList, scanned s.keyPrefix e.1 → prefixSize ≤ e.1.length) →
        let rows := db.entries.toList.filter fun e =>
          prefixKey s.keyPrefix <+: e.1 ∧ missed s.keyPrefix e.1 = false
        ∃ values : Entry → List Value, (∀ e ∈ rows, Scan.decodeRow s e = .ok (values e)) ∧
          collect scan t = .ok (rows.map fun e => Record.ofRow s (values e)) t) ∧
      ∀ e ∈ db.entries.toList, scanned s.keyPrefix e.1 → e.1.length < prefixSize →
        (s.keyPrefix.toNat + 1) % 256 = 0 ∧
        ∃ n < prefixSize, collect scan t = .error (.undecodable (.shortInput prefixSize n))
          { t with poison := some (CodecError.shortInput prefixSize n).message } :=
  ⟨_, scanTable_ok hpoison hresolve, fun hlong => collect_table hrows hlong t,
    fun _ he hscanned hshort =>
      ⟨mod_of_scanned hshort hscanned, collect_short hrows he hscanned hshort t⟩⟩

/-- A table with a number as its key, under the last prefix. -/
def lastTable : Schema :=
  { name := "last", columns := ["id"], types := [.int64], keyPrefix := 4294967295 }

/-- A store with that table and the rows of two numbers, one of them the greatest. -/
def lastStore : MemoryStore :=
  ((MemoryStore.empty.load (schemaEntry lastTable).1 (schemaEntry lastTable).2).load
    (encodeKey lastTable.keyPrefix [.int64 1]) []).load
      (encodeKey lastTable.keyPrefix [.int64 9223372036854775807]) []

/-- All rows of the last prefix can be decoded. -/
theorem decodable_lastStore (e : Entry) (he : e ∈ lastStore.entries.toList)
    (hstarts : prefixKey lastTable.keyPrefix <+: e.1) :
    ∃ values, Scan.decodeRow lastTable e = .ok values := by
  have hall : ∀ e ∈ lastStore.entries.toList, prefixKey lastTable.keyPrefix <+: e.1 →
      Except.succeeds (Scan.decodeRow lastTable e) (fun _ => true) = true := by
    decide +kernel
  obtain ⟨values, hvalues, -⟩ := Except.exists_of_succeeds (hall e he hstarts)
  exact ⟨values, hvalues⟩

/-- Of the two rows of the last table, one is read. -/
theorem scanTable_exact_of_lastStore :
    let db : Database MemoryStore := { store := lastStore }
    ∃ t scan, resolve "last" db = .ok lastTable t ∧ scanTable "last" db = .ok scan t ∧
      ∃ row, collect scan t = .ok [row] t := by
  intro db
  have hresolve : ((resolve "last").outcome db).1 = .ok lastTable := by
    decide +kernel
  obtain ⟨scan, hscan, hrows, -⟩ :=
    scanTable_exact (κ := MemoryStore) rfl (ok_of_outcome hresolve) decodable_lastStore
  have hlong : ∀ e ∈ db.entries.toList, scanned lastTable.keyPrefix e.1 →
      prefixSize ≤ e.1.length := by
    decide +kernel
  obtain ⟨values, -, hcollect⟩ := hrows hlong
  have hone : (db.entries.toList.filter fun e =>
      prefixKey lastTable.keyPrefix <+: e.1 ∧ missed lastTable.keyPrefix e.1 = false) =
      [(encodeKey lastTable.keyPrefix [.int64 1], [])] := by
    decide +kernel
  rw [hone] at hcollect
  exact ⟨_, scan, ok_of_outcome hresolve, hscan, _, hcollect⟩

/-- **The last table loses rows.** A scan does not read the row of every entry that starts with the
prefix of a table, although all of them can be decoded: under the last prefix, the row of the
greatest number is missed. -/
theorem missed_of_lastPrefix :
    ¬ ∀ (db t : Database MemoryStore) (name : String) (s : Schema), db.poison = none →
      resolve name db = .ok s t →
      (∀ e ∈ db.entries.toList, prefixKey s.keyPrefix <+: e.1 →
        ∃ values, Scan.decodeRow s e = .ok values) →
      ∃ (scan : Scan) (rows : List Record), scanTable name db = .ok scan t ∧
        collect scan t = .ok rows t ∧
        rows.length =
          (db.entries.toList.filter fun e => prefixKey s.keyPrefix <+: e.1).length := by
  intro hall
  let db : Database MemoryStore := { store := lastStore }
  have hresolve : ((resolve "last").outcome db).1 = .ok lastTable := by
    decide +kernel
  have hread : ((scanTable "last" >>= collect).outcome db).1 = .ok [⟨[("id", .int64 1)]⟩] := by
    decide +kernel
  obtain ⟨scan, rows, hscan, hcollect, hlength⟩ :=
    hall db _ "last" lastTable rfl (ok_of_outcome hresolve) decodable_lastStore
  have hrun : (scanTable "last" >>= collect) db = .ok rows _ := (bind_ok hscan).trans hcollect
  rw [outcome, hrun] at hread
  rw [Except.ok.inj hread] at hlength
  have htwo : (db.entries.toList.filter fun e => prefixKey lastTable.keyPrefix <+: e.1).length =
      2 := by
    decide +kernel
  rw [htwo] at hlength
  cases hlength

end Database

end PagedTables
