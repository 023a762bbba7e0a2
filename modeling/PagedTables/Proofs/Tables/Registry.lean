/-
# The registry of schemas

The catalog of a database lists the schemas of its tables, each in a row under its name. From this
list a database answers which tables there are and how they are defined, whether it has their
schemas at hand or not.

* `Registers` : a store whose catalog lists certain schemas;
* `Registers.exists_rows` : the rows of the catalog, in the order of the names;
* `Database.Registered` : a database that has all of them at hand;
* `Database.Registered.resolve_cases`, `Database.Registered.tableNames_eq` : its answers.
-/
import Mathlib
import PagedTables.Proofs.Tables.Following

namespace PagedTables

/-! ## Schemas by their names -/

namespace Schema

/-- Schemas by their names; of several with one name the last one counts. -/
def byName (schemas : List Schema) : OrderedMap String Schema :=
  schemas.foldl (fun m s => m.insert s.name s) ∅

/-- A further schema is put under its name. -/
theorem byName_concat (schemas : List Schema) (s : Schema) :
    byName (schemas ++ [s]) = (byName schemas).insert s.name s := by
  rw [byName, List.foldl_append]
  rfl

/-- Schemas with different names are found by them. -/
theorem lookup_byName {schemas : List Schema} (h : (schemas.map name).Nodup) {name : String}
    {s : Schema} : (byName schemas).lookup name = some s ↔ s ∈ schemas ∧ s.name = name := by
  induction schemas using List.reverseRecOn with
  | nil =>
    constructor
    · nofun
    · rintro ⟨hs, -⟩
      cases hs
  | append_singleton schemas t ih =>
    rw [List.map_append, List.map_singleton, List.nodup_append] at h
    obtain ⟨hschemas, -, hnew⟩ := h
    rw [byName_concat, OrderedMap.lookup_insert_eq_some_iff, ih hschemas, List.mem_append,
      List.mem_singleton]
    constructor
    · rintro (⟨rfl, rfl⟩ | ⟨-, hs, rfl⟩)
      · exact ⟨.inr rfl, rfl⟩
      · exact ⟨.inl hs, rfl⟩
    · rintro ⟨hs | rfl, rfl⟩
      · refine .inr ⟨?_, hs, rfl⟩
        exact hnew _ (List.mem_map_of_mem hs) _ (List.mem_singleton_self _)
      · exact .inl ⟨rfl, rfl⟩

/-- No schema is found under a name that none has. -/
theorem lookup_byName_eq_none {schemas : List Schema} (h : (schemas.map name).Nodup)
    {name : String} : (byName schemas).lookup name = none ↔ name ∉ schemas.map Schema.name := by
  rw [Option.eq_none_iff_forall_not_mem, List.mem_map, not_exists]
  exact forall_congr' fun s => not_congr (lookup_byName h)

/-- The row of a schema in the catalog. -/
def catalogRow (s : Schema) : List Value × List Value :=
  ([.ofText s.name], schemaRow s)

/-- The rows of the catalog stand in the order of the names. -/
theorem compare_catalogRow (s t : Schema) : compare s.catalogRow.1 t.catalogRow.1 =
    compare (Bytes.ofText s.name) (Bytes.ofText t.name) := by
  rw [catalogRow, catalogRow, List.compare_cons_cons, List.compare_nil_nil, Ordering.then_eq]
  rfl

end Schema

/-! ## Catalogs -/

/-- The catalog of a store lists certain schemas, in the order in which their tables were created,
and the next table takes the prefix `next`. -/
structure Registers (schemas : List Schema) (m : MemoryStore) (next : Nat) : Prop where
  described : ∃ (tables : Tables) (l : Layout),
    l.Describes m.limits m (Schema.byName schemas) tables next
  nodup : (schemas.map Schema.name).Nodup
  ascending : schemas.Pairwise fun s t => s.keyPrefix < t.keyPrefix
  storable : ∀ s ∈ schemas, s.Storable

namespace Registers

variable {schemas : List Schema} {m : MemoryStore} {next : Nat} {s : Schema}

/-- The catalog of an empty store lists nothing. -/
theorem empty (hempty : m.entries = ∅) : Registers [] m Schema.firstPrefix.toNat where
  described := ⟨_, _, Layout.describes_empty hempty⟩
  nodup := List.nodup_nil
  ascending := .nil
  storable := nofun

/-- A listed schema belongs to a table. -/
theorem exists_table (h : Registers schemas m next) (hs : s ∈ schemas) :
    Schema.builtIn? s.name = none ∧ ∃ (tables : Tables) (l : Layout) (t : Table),
      l.Describes m.limits m (Schema.byName schemas) tables next ∧
        l s.keyPrefix = some t ∧ t.schema = s := by
  obtain ⟨tables, l, hl⟩ := h.described
  have hlookup := (Schema.lookup_byName h.nodup).mpr ⟨hs, rfl⟩
  have hknown := hl.known s.name
  rw [hlookup] at hknown
  obtain ⟨t, ht⟩ := Option.isSome_iff_exists.mp hknown.symm
  obtain ⟨p, -, hcache, hp⟩ := hl.placed ht
  obtain rfl := Option.some.inj (hlookup.symm.trans hcache)
  exact ⟨(hl.named ht).2, tables, l, t.placed p, hl, hp, rfl⟩

/-- The prefixes of listed schemas are taken. -/
theorem keyPrefix_lt (h : Registers schemas m next) (hs : s ∈ schemas) :
    s.keyPrefix.toNat < next := by
  obtain ⟨-, tables, l, t, hl, ht, -⟩ := h.exists_table hs
  by_contra hle
  rw [hl.free _ (Nat.le_of_not_lt hle)] at ht
  cases ht

/-- A further schema is listed. -/
theorem concat (h : Registers schemas m next) {m' : MemoryStore} {next' : Nat}
    (hdescribed : ∃ (tables : Tables) (l : Layout),
      l.Describes m'.limits m' ((Schema.byName schemas).insert s.name s) tables next')
    (hnew : (Schema.byName schemas).lookup s.name = none) (hs : s.Storable)
    (hplaced : s.keyPrefix.toNat = next) : Registers (schemas ++ [s]) m' next' where
  described := by
    rw [Schema.byName_concat]
    exact hdescribed
  nodup := by
    rw [List.map_append, List.map_singleton, List.nodup_append]
    refine ⟨h.nodup, List.nodup_singleton _, ?_⟩
    intro name hname name' hname'
    rw [List.mem_singleton.mp hname']
    rintro rfl
    exact (Schema.lookup_byName_eq_none h.nodup).mp hnew hname
  ascending := by
    rw [List.pairwise_append]
    refine ⟨h.ascending, List.pairwise_singleton _ _, ?_⟩
    intro t ht s' hs'
    rw [List.mem_singleton.mp hs', UInt32.lt_iff_toNat_lt, hplaced]
    exact h.keyPrefix_lt ht
  storable := by
    intro t ht
    rcases List.mem_append.mp ht with ht | ht
    · exact h.storable t ht
    · rw [List.mem_singleton.mp ht]
      exact hs

/-- **The rows of the catalog** are those of the schemas, in the order of their names. -/
theorem exists_rows (h : Registers schemas m next) :
    ∃ (tables : Tables) (l : Layout) (rows : Rows) (sorted : List Schema),
      l.Describes m.limits m (Schema.byName schemas) tables next ∧
      l Schema.catalog.keyPrefix = some ⟨Schema.catalog, rows⟩ ∧
      rows.toList = sorted.map Schema.catalogRow ∧ sorted.Perm schemas ∧
      sorted.Pairwise fun s t =>
        compare (Bytes.ofText s.name) (Bytes.ofText t.name) = .lt := by
  obtain ⟨tables, l, hl⟩ := h.described
  obtain ⟨rows, hrows, hcatalog⟩ := hl.catalog
  -- each row is that of a schema, and each schema has one
  have hfound : ∀ row ∈ rows.toList, ∃ s : {s // s ∈ schemas}, s.1.catalogRow = row := by
    rintro ⟨key, others⟩ hrow
    have hlookup := (OrderedMap.mem_toList_iff _).mp hrow
    obtain ⟨name, rfl⟩ := hl.texts hrows hlookup
    rw [hcatalog, Option.map_eq_some_iff] at hlookup
    obtain ⟨s, hlookup, rfl⟩ := hlookup
    obtain ⟨hs, rfl⟩ := (Schema.lookup_byName h.nodup).mp hlookup
    exact ⟨⟨s, hs⟩, rfl⟩
  have hstored : ∀ s ∈ schemas, s.catalogRow ∈ rows.toList := by
    intro s hs
    rw [Schema.catalogRow, OrderedMap.mem_toList_iff, hcatalog,
      (Schema.lookup_byName h.nodup).mpr ⟨hs, rfl⟩]
    rfl
  obtain ⟨listed, hlisted⟩ : rows.toList ∈ Set.range
      (List.map fun s : {s // s ∈ schemas} => s.1.catalogRow) := by
    rw [Set.range_list_map]
    exact hfound
  have hsorted : rows.toList = (listed.map Subtype.val).map Schema.catalogRow := by
    rw [← hlisted, List.map_map]
    rfl
  have hascending : (listed.map Subtype.val).Pairwise fun s t : Schema =>
      compare (Bytes.ofText s.name) (Bytes.ofText t.name) = .lt := by
    have hkeys := rows.ascending
    change rows.toList.Pairwise _ at hkeys
    rw [hsorted, List.pairwise_map] at hkeys
    exact hkeys.imp fun {s t} hlt => (Schema.compare_catalogRow s t).symm.trans hlt
  refine ⟨tables, l, rows, listed.map Subtype.val, hl, hrows, hsorted, ?_, hascending⟩
  have hdistinct : (listed.map Subtype.val).Nodup := by
    refine hascending.imp ?_
    rintro s _ hlt rfl
    have hself : compare (Bytes.ofText s.name) (Bytes.ofText s.name) = .eq :=
      Std.ReflCmp.compare_self
    rw [hself] at hlt
    cases hlt
  refine (List.perm_ext_iff_of_nodup hdistinct h.nodup.of_map).mpr fun s => ⟨?_, ?_⟩
  · intro hs
    obtain ⟨t, -, rfl⟩ := List.mem_map.mp hs
    exact t.2
  · intro hs
    have hrow := hstored s hs
    rw [hsorted] at hrow
    obtain ⟨t, ht, heq⟩ := List.mem_map.mp hrow
    obtain ⟨u, -, rfl⟩ := List.mem_map.mp ht
    have hname : u.1.name = s.name := ofText_inj.mp (List.cons.inj (Prod.mk.inj heq).1).1
    rwa [← List.inj_on_of_nodup_map h.nodup u.2 hs hname]

end Registers

/-! ## Databases with their catalogs -/

namespace Database

variable {κ : Type} [Store κ] {db : Database κ} {schemas : List Schema} {next : Nat}

/-- A database that has the schemas of its catalog at hand. -/
structure Registered (db : Database κ) (schemas : List Schema) (next : Nat) : Prop where
  cache_eq : db.cache = Schema.byName schemas
  registers : Registers schemas (Store.contents db.store) next

/-- A database lists schemas: it gives their names, each once and in the order of their bytes, and
under each name the schema; no other name stands for a table. -/
structure Lists (db : Database κ) (schemas : List Schema) : Prop where
  names : ∃ names, (Action.outcome tableNames db).1 = .ok names ∧
    names.Perm (schemas.map Schema.name) ∧
    names.Pairwise fun a b => compare (Bytes.ofText a) (Bytes.ofText b) = .lt
  schema : ∀ s ∈ schemas, (Action.outcome (schemaOf s.name) db).1 = .ok s
  unknown : ∀ name, Schema.builtIn? name = none → name ∉ schemas.map Schema.name →
    (Action.outcome (schemaOf name) db).1 = .error (.tableNotFound name)

/-- A scan of all rows of a table gives them, in the order of their keys. -/
theorem collect_whole {l : Layout} {p : UInt32} {t : Table} (h : l.Holds db.entries)
    (ht : l p = some t) (hlast : p.toNat < maxWord32) :
    collect (Scan.start db.entries t.schema .atLeast (prefixKey p) .below (tableEnd p)) db =
      .ok (t.rows.toList.map fun row => Record.ofRow t.schema (row.1 ++ row.2)) db := by
  have hwhole := h.whole_eq ht hlast
  have htake := take_start rfl hwhole (fun row hrow =>
    h.decodeRow_eq ht ((OrderedMap.mem_toList_iff _).mp hrow)) db.entries.size db
  -- as many moves as the store has entries are enough for all rows
  have hlength : t.rows.toList.length ≤ db.entries.size := by
    rw [← List.length_map (f := storedRow p), ← hwhole]
    exact (List.length_filter_le _ _).trans_eq (db.entries.length_inOrder _)
  rw [List.take_of_length_le hlength] at htake
  exact htake

/-- **The rows of the catalog** are found by a scan, in the order of the names. -/
theorem exists_scan_catalog {m : MemoryStore} (h : Registers schemas m next)
    (hentries : db.entries = m.entries) (hpoison : db.poison = none) :
    ∃ (scan : Scan) (sorted : List Schema), scanTable Schema.catalogName db = .ok scan db ∧
      collect scan db = .ok (sorted.map catalogRecord) db ∧ sorted.Perm schemas ∧
      sorted.Pairwise fun s t =>
        compare (Bytes.ofText s.name) (Bytes.ofText t.name) = .lt := by
  obtain ⟨tables, l, rows, sorted, hl, hrows, hsorted, hperm, hascending⟩ := h.exists_rows
  have hresolve : resolve Schema.catalogName db = .ok Schema.catalog db := rfl
  have hscan : scanTable Schema.catalogName db = .ok (Scan.start db.entries Schema.catalog .atLeast
      (prefixKey Schema.catalog.keyPrefix) .below (tableEnd Schema.catalog.keyPrefix)) db := by
    unfold scanTable
    rw [Action.bind_ok (guarded_ok hpoison hresolve)]
    rfl
  have hholds : l.Holds db.entries := by
    rw [hentries]
    exact hl.holds
  have hrecords : rows.toList.map (fun row => Record.ofRow Schema.catalog (row.1 ++ row.2)) =
      sorted.map catalogRecord := by
    rw [hsorted, List.map_map]
    rfl
  refine ⟨_, sorted, hscan, ?_, hperm, hascending⟩
  rw [← hrecords]
  exact collect_whole hholds hrows (by decide)

omit [Store κ] in
/-- The names in the rows of schemas. -/
theorem mapM_nameIn (schemas : List Schema) :
    (schemas.map catalogRecord).mapM nameIn = .ok (schemas.map Schema.name) := by
  induction schemas with
  | nil => rfl
  | cons s schemas ih =>
    rw [List.map_cons, List.mapM_cons, nameIn_catalogRecord, Action.except_ok_bind, ih]
    rfl

namespace Registered

/-- A database with its catalog has tables that its store and its schemas make up. -/
theorem exists_describes (h : db.Registered schemas next) : ∃ (tables : Tables) (l : Layout),
    l.Describes (Store.contents db.store).limits (Store.contents db.store) db.cache tables
      next := by
  rw [h.cache_eq]
  exact h.registers.described

/-- A schema is at hand under its name exactly if it is in the catalog. -/
theorem lookup_eq_some_iff (h : db.Registered schemas next) {name : String} {s : Schema} :
    db.cache.lookup name = some s ↔ s ∈ schemas ∧ s.name = name := by
  rw [h.cache_eq]
  exact Schema.lookup_byName h.registers.nodup

/-- What is at hand is what the catalog has. -/
theorem catalogued (h : db.Registered schemas next) : db.Catalogued where
  row := by
    intro name
    obtain ⟨tables, l, hl⟩ := h.exists_describes
    rw [getRow_catalog hl name]
    cases hlookup : db.cache.lookup name with
    | none => rfl
    | some s =>
      obtain ⟨-, rfl⟩ := h.lookup_eq_some_iff.mp hlookup
      rfl
  name_eq := fun hs => (h.lookup_eq_some_iff.mp hs).2
  storable := fun hs => h.registers.storable _ (h.lookup_eq_some_iff.mp hs).1

/-! ### Schemas -/

/-- The name of a schema in the catalog stands for it. -/
theorem resolve_of_mem (h : db.Registered schemas next) {s : Schema} (hs : s ∈ schemas) :
    resolve s.name db = .ok s db :=
  resolve_of_some (h.registers.exists_table hs).1 (h.lookup_eq_some_iff.mpr ⟨hs, rfl⟩)

/-- Any other name that is not built in stands for no table. -/
theorem resolve_of_notMem (h : db.Registered schemas next) {name : String}
    (hbuiltIn : Schema.builtIn? name = none) (hname : name ∉ schemas.map Schema.name) :
    resolve name db = .error (.tableNotFound name) db := by
  obtain ⟨tables, l, hl⟩ := h.exists_describes
  have hcache : db.cache.lookup name = none := by
    rw [h.cache_eq]
    exact (Schema.lookup_byName_eq_none h.registers.nodup).mpr hname
  refine resolve_of_none hl hbuiltIn ?_
  rw [← Option.isNone_iff_eq_none, ← Option.not_isSome, ← hl.known, hcache]
  rfl

/-- **A name stands for a table** of the store, or for none. -/
theorem resolve_cases (h : db.Registered schemas next) (name : String) :
    (∃ (l : Layout) (p : UInt32) (t : Table), l.Holds db.entries ∧ l p = some t ∧
      p.toNat < maxWord32 ∧ resolve name db = .ok t.schema db) ∨
    resolve name db = .error (.tableNotFound name) db := by
  cases hbuiltIn : Schema.builtIn? name with
  | some s =>
    obtain ⟨tables, l, hl⟩ := h.exists_describes
    have hresolve : resolve name db = .ok s db := by
      unfold resolve
      rw [Action.get_bind, hbuiltIn]
      rfl
    rw [hresolve]
    unfold Schema.builtIn? at hbuiltIn
    split at hbuiltIn
    · obtain rfl := Option.some.inj hbuiltIn
      obtain ⟨rows, hrows, -⟩ := hl.settings
      exact .inl ⟨l, _, _, hl.holds, hrows, by decide, rfl⟩
    · split at hbuiltIn
      · obtain rfl := Option.some.inj hbuiltIn
        obtain ⟨rows, hrows, -⟩ := hl.catalog
        exact .inl ⟨l, _, _, hl.holds, hrows, by decide, rfl⟩
      · cases hbuiltIn
  | none =>
    by_cases hname : name ∈ schemas.map Schema.name
    · obtain ⟨s, hs, rfl⟩ := List.mem_map.mp hname
      obtain ⟨-, tables, l, t, hl, ht, rfl⟩ := h.registers.exists_table hs
      refine .inl ⟨l, _, t, hl.holds, ht, ?_, h.resolve_of_mem hs⟩
      exact Nat.lt_of_lt_of_le (h.registers.keyPrefix_lt hs) hl.le_last
    · exact .inr (h.resolve_of_notMem hbuiltIn hname)

/-! ### Names -/

/-- **The names of tables** are read from the rows of the catalog. -/
theorem tableNames_eq (h : db.Registered schemas next) (hpoison : db.poison = none) :
    ∃ sorted : List Schema, tableNames db = .ok (sorted.map Schema.name) db ∧
      sorted.Perm schemas ∧ sorted.Pairwise fun s t =>
        compare (Bytes.ofText s.name) (Bytes.ofText t.name) = .lt := by
  obtain ⟨scan, sorted, hscan, hcollect, hperm, hascending⟩ :=
    exists_scan_catalog h.registers rfl hpoison
  refine ⟨sorted, ?_, hperm, hascending⟩
  unfold tableNames
  rw [Action.bind_ok hscan, Action.bind_ok hcollect, mapM_nameIn]
  rfl

/-- **A database with its catalog** lists the schemas of the catalog. -/
theorem lists (h : db.Registered schemas next) (hpoison : db.poison = none) :
    db.Lists schemas where
  names := by
    obtain ⟨sorted, hrun, hperm, hascending⟩ := h.tableNames_eq hpoison
    refine ⟨sorted.map Schema.name, ?_, hperm.map _, List.pairwise_map.mpr hascending⟩
    rw [Action.outcome, hrun]
  schema := by
    intro s hs
    rw [Action.outcome, schemaOf, guarded_ok hpoison (h.resolve_of_mem hs)]
  unknown := by
    intro name hbuiltIn hname
    rw [Action.outcome, schemaOf,
      guarded_error hpoison (h.resolve_of_notMem hbuiltIn hname) rfl]

end Registered

end Database

end PagedTables
