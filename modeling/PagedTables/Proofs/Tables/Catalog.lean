/-
# The tables of a database

A database keeps the tables of its callers beside two tables of its own: the catalog, which has
the schema of each table under its name, and the settings, which have the counter of prefixes.
Here the contents of a database are related to the tables that its callers see.

* `Layout.Describes` : a store and the schemas at hand make up certain tables;
* `Layout.Describes.changeRows` : a row of a table changes;
* `Layout.Describes.count`, `Layout.Describes.enter` : the two steps that create a table;
* `Database.Shows` : a database with certain tables.
-/
import Mathlib
import PagedTables.Proofs.Tables.Rows

namespace PagedTables

/-! ## Stores within their limits -/

namespace MemoryStore

/-- Every entry passes the check for new entries. -/
def Fits (m : MemoryStore) : Prop :=
  ∀ k v, m.get? k = some v → m.checkEntry k v = .ok ()

variable {m : MemoryStore} {key value : Bytes}

/-- A new entry within the limits keeps all entries so. -/
theorem Fits.load (h : m.Fits) (hnew : m.checkEntry key value = .ok ()) :
    (m.load key value).Fits := by
  intro k v hk
  change (m.entries.insert key value).lookup k = some v at hk
  rcases OrderedMap.lookup_insert_eq_some_iff.mp hk with ⟨rfl, rfl⟩ | ⟨-, hk⟩
  · exact hnew
  · exact h k v hk

theorem Fits.erase (h : m.Fits) (key : Bytes) : (m.erase key).Fits := by
  intro k v hk
  change (m.entries.erase key).lookup k = some v at hk
  rw [OrderedMap.lookup_erase] at hk
  split at hk
  · cases hk
  · exact h k v hk

end MemoryStore

/-! ## Schemas of new tables -/

namespace Schema

variable {s : Schema}

theorem fillPrimary_name (s : Schema) : s.fillPrimary.name = s.name := by
  unfold fillPrimary
  split <;> rfl

/-- Declaring the primary index leaves the columns. -/
theorem Sound.fillPrimary (h : s.Sound) : s.fillPrimary.Sound := by
  unfold Schema.fillPrimary
  split
  · exact ⟨h.length_eq, h.keyCount_le, h.nodup⟩
  · exact h

/-- A prefix does not matter for the rules of rows. -/
theorem Sound.placed (h : s.Sound) (p : UInt32) : (s.placed p).Sound :=
  ⟨h.length_eq, h.keyCount_le, h.nodup⟩

/-- A schema that breaks no rule still breaks none with the primary index. -/
theorem check_fillPrimary (h : s.check = .ok ()) : s.fillPrimary.check = .ok () := by
  unfold Schema.fillPrimary
  split
  · obtain ⟨hname, hcolumns, hlength, hcount, hnames, -, -⟩ := check_eq_ok_iff.mp h
    refine check_eq_ok_iff.mpr ⟨hname, hcolumns, hlength, hcount, hnames, ?_, ?_⟩
    · rintro _ ⟨⟩
      rfl
    · have hne : s.keyColumns.isEmpty = false := by
        rw [List.isEmpty_eq_false_iff, keyColumns, ne_eq, List.take_eq_nil_iff, not_or]
        exact ⟨by omega, hcolumns⟩
      have hknown : (s.keyColumns.find? fun c => !s.columns.contains c) = none := by
        rw [List.find?_eq_none]
        intro c hc
        have hmem : c ∈ s.columns := List.mem_of_mem_take hc
        simpa using hmem
      simp only [checkIndexes, primaryIndex, hne, hknown]
      simp
  · exact h

/-- The built-in tables have reserved names. -/
theorem builtIn?_of_unreserved {name : String} (h : ¬name.startsWith "@" = true) :
    builtIn? name = none := by
  unfold builtIn?
  split
  · next hname =>
    rw [hname] at h
    exact absurd (by simp [settingsName]) h
  · split
    · next hname =>
      rw [hname] at h
      exact absurd (by simp [catalogName]) h
    · rfl

end Schema

/-- Different names are different values. -/
theorem ofText_inj {a b : String} : Value.ofText a = .ofText b ↔ a = b := by
  constructor
  · intro h
    have hbytes : a.toByteArray.data.toList = b.toByteArray.data.toList := Value.bytes.inj h
    exact String.toByteArray_inj.mp (ByteArray.ext (Array.toList_inj.mp hbytes))
  · rintro rfl
    rfl

/-! ## Stores with tables -/

/-- The numbers up to the last prefix are words. -/
theorem lt_size_of_le_maxWord32 {n : Nat} (h : n ≤ maxWord32) : n < UInt32.size :=
  Nat.lt_of_le_pred (by decide) h

/-- After every prefix but the last there is a next one. -/
theorem toNat_succ_of_ne {p : UInt32} (h : p.toNat ≠ maxWord32) :
    (p + 1).toNat = p.toNat + 1 := by
  refine toNat_succ ?_
  have hlt : p.toNat < UInt32.size := p.toNat_lt
  rw [maxWord32] at h
  omega

/-- What the settings have as the counter of prefixes, before the first table and later. -/
def counterRow (next : Nat) : Option (List Value) :=
  if next = Schema.firstPrefix.toNat then none else some [.bytes (Bytes.ofNatLE 4 next)]

/-- The stored counter of prefixes. -/
def counterEntry (next : Nat) : Entry :=
  storedRow Schema.settings.keyPrefix
    ([.bytes Database.counterKey], [.bytes (Bytes.ofNatLE 4 next)])

/-- What the catalog has for a schema. -/
def schemaRow (s : Schema) : List Value :=
  [.bytes s.toJson.compact]

/-- The stored schema of a table. -/
def schemaEntry (s : Schema) : Entry :=
  storedRow Schema.catalog.keyPrefix ([.ofText s.name], schemaRow s)

/-- A table that exists under a prefix. -/
def Table.placed (p : UInt32) (t : Table) : Table :=
  { t with schema := t.schema.placed p }

namespace Layout

/-- The store and the schemas at hand make up the tables, each under a prefix of its own, and
the next table has the prefix `next`. -/
structure Describes (l : Layout) (limits : Limits) (m : MemoryStore)
    (cache : OrderedMap String Schema) (tables : Tables) (next : Nat) : Prop where
  limits_eq : m.limits = limits
  fits : m.Fits
  holds : l.Holds m.entries
  settings : ∃ rows, l Schema.settings.keyPrefix = some ⟨Schema.settings, rows⟩ ∧
    rows.lookup [.bytes Database.counterKey] = counterRow next
  catalog : ∃ rows, l Schema.catalog.keyPrefix = some ⟨Schema.catalog, rows⟩ ∧
    ∀ name, rows.lookup [.ofText name] = (cache.lookup name).map schemaRow
  texts : ∀ {rows key others}, l Schema.catalog.keyPrefix = some ⟨Schema.catalog, rows⟩ →
    rows.lookup key = some others → ∃ name, key = [.ofText name]
  first_le : Schema.firstPrefix.toNat ≤ next
  le_last : next ≤ maxWord32
  free : ∀ p : UInt32, next ≤ p.toNat → l p = none
  named : ∀ {name t}, tables.lookup name = some t →
    t.schema.name = name ∧ Schema.builtIn? name = none
  placed : ∀ {name t}, tables.lookup name = some t → ∃ p : UInt32,
    Schema.firstPrefix.toNat ≤ p.toNat ∧ cache.lookup name = some (t.schema.placed p) ∧
      l p = some (t.placed p)
  known : ∀ name, (cache.lookup name).isSome = (tables.lookup name).isSome

variable {l : Layout} {limits : Limits} {m m' : MemoryStore} {cache : OrderedMap String Schema}
variable {tables : Tables} {next : Nat} {name : String} {t : Table} {p : UInt32}

/-- A prefix of a table is not that of the settings. -/
theorem ne_settings (h : Schema.firstPrefix.toNat ≤ p.toNat) :
    Schema.settings.keyPrefix ≠ p := by
  rintro rfl
  exact absurd h (by decide)

theorem ne_catalog (h : Schema.firstPrefix.toNat ≤ p.toNat) :
    Schema.catalog.keyPrefix ≠ p := by
  rintro rfl
  exact absurd h (by decide)

/-- The layout without tables of callers. -/
def builtIn : Layout :=
  set (set (fun _ => none) Schema.settings.keyPrefix ⟨Schema.settings, ∅⟩)
    Schema.catalog.keyPrefix ⟨Schema.catalog, ∅⟩

/-- **A new database** has an empty store and no tables. -/
theorem describes_empty (hempty : m.entries = ∅) :
    builtIn.Describes m.limits m ∅ ∅ Schema.firstPrefix.toNat where
  limits_eq := rfl
  fits := by
    intro k v hk
    rw [MemoryStore.get?, hempty] at hk
    cases hk
  holds := by
    rw [hempty]
    exact (Holds.empty.add rfl Schema.sound_settings rfl).add rfl Schema.sound_catalog rfl
  settings := ⟨∅, rfl, rfl⟩
  catalog := ⟨∅, rfl, fun _ => rfl⟩
  texts := by
    intro rows key others hrows hkey
    obtain rfl : ∅ = rows := congrArg Table.rows (Option.some.inj hrows)
    cases hkey
  first_le := le_refl _
  le_last := by decide
  free := by
    intro p hp
    rw [builtIn, set_of_ne _ _ (ne_catalog hp).symm, set_of_ne _ _ (ne_settings hp).symm]
  named := nofun
  placed := nofun
  known := fun _ => rfl

namespace Describes

/-- Tables with one prefix are one table. -/
theorem name_eq (h : l.Describes limits m cache tables next) {name' : String} {t' : Table}
    (ht : tables.lookup name = some t) (ht' : tables.lookup name' = some t')
    (hp : l p = some (t.placed p)) (hp' : l p = some (t'.placed p)) : name = name' := by
  have heq := Option.some.inj (hp.symm.trans hp')
  have hname : (t.placed p).schema.name = (t'.placed p).schema.name := by rw [heq]
  rw [← (h.named ht).1, ← (h.named ht').1]
  exact hname

/-- **Rows of a table change**, in the store and in the table. -/
theorem changeRows (h : l.Describes limits m cache tables next)
    (ht : tables.lookup name = some t) (hfirst : Schema.firstPrefix.toNat ≤ p.toNat)
    (hcache : cache.lookup name = some (t.schema.placed p)) (hp : l p = some (t.placed p))
    {u : Table} (hschema : u.schema = t.schema) (hlimits : m'.limits = m.limits)
    (hfits : m'.Fits) (hholds : (l.set p (u.placed p)).Holds m'.entries) :
    (l.set p (u.placed p)).Describes limits m' cache (tables.insert name u) next where
  limits_eq := hlimits.trans h.limits_eq
  fits := hfits
  holds := hholds
  settings := by
    rw [set_of_ne _ _ (ne_settings hfirst)]
    exact h.settings
  catalog := by
    rw [set_of_ne _ _ (ne_catalog hfirst)]
    exact h.catalog
  texts := by
    rw [set_of_ne _ _ (ne_catalog hfirst)]
    exact h.texts
  first_le := h.first_le
  le_last := h.le_last
  free := by
    intro q hq
    rw [set_of_ne]
    · exact h.free q hq
    · rintro rfl
      rw [h.free q hq] at hp
      cases hp
  named := by
    intro name' t' ht'
    rcases OrderedMap.lookup_insert_eq_some_iff.mp ht' with ⟨rfl, rfl⟩ | ⟨-, ht'⟩
    · rw [hschema]
      exact h.named ht
    · exact h.named ht'
  placed := by
    intro name' t' ht'
    rcases OrderedMap.lookup_insert_eq_some_iff.mp ht' with ⟨rfl, rfl⟩ | ⟨hne, ht'⟩
    · exact ⟨p, hfirst, by rw [hschema, hcache], set_self ..⟩
    · obtain ⟨q, hq, hcache', hl⟩ := h.placed ht'
      refine ⟨q, hq, hcache', ?_⟩
      rw [set_of_ne, hl]
      -- two tables under one prefix would have one schema, and with it one name
      rintro rfl
      exact hne (h.name_eq ht' ht hl hp)
  known := by
    intro name'
    rw [h.known, OrderedMap.lookup_insert]
    split
    · next heq =>
      rw [← Std.LawfulEqCmp.eq_of_compare heq, ht]
      rfl
    · rfl

/-- **The counter moves on**, and the prefix that it has left stays free. -/
theorem count (h : l.Describes limits m cache tables next) (hlast : next < maxWord32)
    (hcheck : m.checkEntry (counterEntry (next + 1)).1 (counterEntry (next + 1)).2 = .ok ()) :
    ∃ l' : Layout, l'.Describes limits
        (m.load (counterEntry (next + 1)).1 (counterEntry (next + 1)).2) cache tables (next + 1) ∧
      ∀ p : UInt32, next ≤ p.toNat → l' p = none := by
  have hfirst := h.first_le
  obtain ⟨rows, hrows, hcounter⟩ := h.settings
  have hplaced : ∀ q : UInt32, Schema.firstPrefix.toNat ≤ q.toNat → q ≠ Schema.settings.keyPrefix :=
    fun q hq => (ne_settings hq).symm
  refine ⟨l.set Schema.settings.keyPrefix (Table.put ⟨Schema.settings, rows⟩
    [.bytes Database.counterKey] [.bytes (Bytes.ofNatLE 4 (next + 1))]), ?_, ?_⟩
  · exact {
      limits_eq := h.limits_eq
      fits := h.fits.load hcheck
      holds := h.holds.put hrows rfl rfl
      settings := by
        refine ⟨_, set_self .., ?_⟩
        rw [counterRow, if_neg (by omega)]
        exact OrderedMap.lookup_insert_self ..
      catalog := by
        rw [set_of_ne _ _ (by decide)]
        exact h.catalog
      texts := by
        rw [set_of_ne _ _ (by decide)]
        exact h.texts
      first_le := by omega
      le_last := hlast
      free := by
        intro q hq
        rw [set_of_ne _ _ (hplaced q (by omega))]
        exact h.free q (by omega)
      named := h.named
      placed := by
        intro name t ht
        obtain ⟨q, hq, hcache, hl⟩ := h.placed ht
        refine ⟨q, hq, hcache, ?_⟩
        rw [set_of_ne _ _ (hplaced q hq), hl]
      known := h.known }
  · intro q hq
    rw [set_of_ne _ _ (hplaced q (by omega))]
    exact h.free q hq

/-- **A table is entered** under a free prefix below the counter. -/
theorem enter (h : l.Describes limits m cache tables next) {s : Schema} (hs : s.Sound)
    (hname : Schema.builtIn? s.name = none)
    (hfirst : Schema.firstPrefix.toNat ≤ p.toNat) (hnext : p.toNat < next) (hfree : l p = none)
    (hcheck : m.checkEntry (schemaEntry (s.placed p)).1 (schemaEntry (s.placed p)).2 = .ok ()) :
    ∃ l' : Layout, l'.Describes limits
      (m.load (schemaEntry (s.placed p)).1 (schemaEntry (s.placed p)).2)
      (cache.insert s.name (s.placed p)) (tables.insert s.name ⟨s, ∅⟩) next := by
  obtain ⟨rows, hrows, hcatalog⟩ := h.catalog
  have hkey : Schema.catalog.HasKey [.ofText s.name] := rfl
  have hothers : Schema.catalog.HasOthers (schemaRow (s.placed p)) := rfl
  have hcatalogFirst : ∀ q : UInt32, Schema.firstPrefix.toNat ≤ q.toNat →
      q ≠ Schema.catalog.keyPrefix := fun q hq => (ne_catalog hq).symm
  have hfree' : (l.set Schema.catalog.keyPrefix (Table.put ⟨Schema.catalog, rows⟩
      [.ofText s.name] (schemaRow (s.placed p)))) p = none := by
    rw [set_of_ne _ _ (hcatalogFirst p hfirst), hfree]
  refine ⟨(l.set Schema.catalog.keyPrefix (Table.put ⟨Schema.catalog, rows⟩
    [.ofText s.name] (schemaRow (s.placed p)))).set p (Table.placed p ⟨s, ∅⟩), ?_⟩
  exact {
    limits_eq := h.limits_eq
    fits := h.fits.load hcheck
    holds := (h.holds.put hrows hkey hothers).add hfree' (hs.placed p) rfl
    settings := by
      rw [set_of_ne _ _ (ne_settings hfirst), set_of_ne _ _ (by decide)]
      exact h.settings
    catalog := by
      refine ⟨_, by rw [set_of_ne _ _ (ne_catalog hfirst), set_self]; rfl, ?_⟩
      intro name
      rw [OrderedMap.lookup_insert, OrderedMap.lookup_insert]
      simp only [Std.LawfulEqCmp.compare_eq_iff_eq, List.cons.injEq, ofText_inj, and_true]
      split
      · rfl
      · exact hcatalog name
    texts := by
      intro rows' key others hrows' hkey
      rw [set_of_ne _ _ (ne_catalog hfirst), set_self] at hrows'
      obtain rfl := congrArg Table.rows (Option.some.inj hrows')
      rcases OrderedMap.lookup_insert_eq_some_iff.mp hkey with ⟨rfl, -⟩ | ⟨-, hkey⟩
      · exact ⟨s.name, rfl⟩
      · exact h.texts hrows hkey
    first_le := h.first_le
    le_last := h.le_last
    free := by
      intro q hq
      have hne : q ≠ p := by
        rintro rfl
        omega
      rw [set_of_ne _ _ hne, set_of_ne _ _ (hcatalogFirst q (h.first_le.trans hq))]
      exact h.free q hq
    named := by
      intro name t ht
      rcases OrderedMap.lookup_insert_eq_some_iff.mp ht with ⟨rfl, rfl⟩ | ⟨-, ht⟩
      · exact ⟨rfl, hname⟩
      · exact h.named ht
    placed := by
      intro name t ht
      rcases OrderedMap.lookup_insert_eq_some_iff.mp ht with ⟨rfl, rfl⟩ | ⟨hne, ht⟩
      · exact ⟨p, hfirst, OrderedMap.lookup_insert_self .., set_self ..⟩
      · obtain ⟨q, hq, hcache, hl⟩ := h.placed ht
        -- the prefix of an older table is taken
        have hqp : q ≠ p := by
          rintro rfl
          rw [hfree] at hl
          cases hl
        refine ⟨q, hq, ?_, ?_⟩
        · rw [OrderedMap.lookup_insert_of_ne _ _ hne, hcache]
        · rw [set_of_ne _ _ hqp, set_of_ne _ _ (hcatalogFirst q hq), hl]
    known := by
      intro name
      rw [OrderedMap.lookup_insert, OrderedMap.lookup_insert]
      split
      · rfl
      · exact h.known name }

end Describes

end Layout

/-! ## Databases with tables -/

namespace Database

variable {κ : Type} [Store κ] {db : Database κ} {limits : Limits} {tables : Tables} {next : Nat}

/-- The tables of a database, its limits, and the prefix of its next table. -/
def Shows (db : Database κ) (limits : Limits) (tables : Tables) (next : Nat) : Prop :=
  ∃ l : Layout, l.Describes limits (Store.contents db.store) db.cache tables next

variable {l : Layout} {name : String}

omit [Store κ] in
/-- The schema of a table need not be read: it is built in, or it was used before. -/
def AtHand (db : Database κ) (name : String) (s : Schema) : Prop :=
  (Schema.builtIn? name).or (db.cache.lookup name) = some s

/-- A schema at hand is not read. -/
theorem resolve_of_atHand {s : Schema} (h : db.AtHand name s) : resolve name db = .ok s db := by
  unfold resolve
  rw [Action.get_bind, h]
  rfl

theorem resolve_of_some {s : Schema} (hname : Schema.builtIn? name = none)
    (hcache : db.cache.lookup name = some s) : resolve name db = .ok s db := by
  refine resolve_of_atHand ?_
  rw [AtHand, hname, Option.none_or, hcache]

/-- The row of a name in the catalog. -/
theorem getRow_name {rows : Rows} (h : l.Holds db.entries)
    (hrows : l Schema.catalog.keyPrefix = some ⟨Schema.catalog, rows⟩) (name : String) :
    getRow Schema.catalog (textRecord [("name", Bytes.ofText name)]) db =
      .ok ((rows.lookup [.ofText name]).map fun others =>
        Record.ofRow Schema.catalog (.ofText name :: others)) db :=
  getRow_eq h hrows (textRecord [("name", Bytes.ofText name)])

/-- The row of the counter of prefixes in the settings. -/
theorem getRow_counter {rows : Rows} (h : l.Holds db.entries)
    (hrows : l Schema.settings.keyPrefix = some ⟨Schema.settings, rows⟩) :
    getRow Schema.settings (textRecord [("key", counterKey)]) db =
      .ok ((rows.lookup [.bytes counterKey]).map fun others =>
        Record.ofRow Schema.settings (.bytes counterKey :: others)) db :=
  getRow_eq h hrows (textRecord [("key", counterKey)])

/-- The catalog has the schemas at hand, and no others. -/
theorem getRow_catalog (h : l.Describes limits (Store.contents db.store) db.cache tables next)
    (name : String) :
    getRow Schema.catalog (textRecord [("name", Bytes.ofText name)]) db =
      .ok ((db.cache.lookup name).map fun s =>
        Record.ofRow Schema.catalog (.ofText name :: schemaRow s)) db := by
  obtain ⟨rows, hrows, hcatalog⟩ := h.catalog
  have hget := getRow_name h.holds hrows name
  rw [hcatalog name, Option.map_map] at hget
  exact hget

/-- A name that is not in use stands for no table. -/
theorem resolve_of_none (h : l.Describes limits (Store.contents db.store) db.cache tables next)
    (hname : Schema.builtIn? name = none) (ht : tables.lookup name = none) :
    resolve name db = .error (.tableNotFound name) db := by
  have hcache : db.cache.lookup name = none := by
    rw [← Option.isNone_iff_eq_none, ← Option.not_isSome, h.known, ht]
    rfl
  have hrow := getRow_catalog h name
  rw [hcache] at hrow
  unfold resolve
  rw [Action.get_bind, hname, Option.none_or, hcache]
  exact Action.bind_ok hrow

/-- The counter of prefixes in the settings. -/
def storedCounter (next : Nat) : Option UInt32 :=
  if next = Schema.firstPrefix.toNat then none else some (UInt32.ofNat next)

/-- The next prefix is the counter, or the first prefix while there is none. -/
theorem storedCounter_getD (next : Nat) :
    (storedCounter next).getD Schema.firstPrefix = UInt32.ofNat next := by
  unfold storedCounter
  split
  · next heq =>
    rw [heq]
    exact UInt32.ofNat_toNat.symm
  · rfl

/-- A counter is read back from its row. -/
theorem counterOf_eq {next : Nat} (hfirst : Schema.firstPrefix.toNat ≤ next)
    (hlast : next ≤ maxWord32) :
    counterOf (Record.ofRow Schema.settings
      [.bytes counterKey, .bytes (Bytes.ofNatLE 4 next)]) = .ok (UInt32.ofNat next) := by
  have hval : bytesIn (Record.ofRow Schema.settings
      [.bytes counterKey, .bytes (Bytes.ofNatLE 4 next)]) "val" = some (Bytes.ofNatLE 4 next) := rfl
  have hsize : next < UInt32.size := lt_size_of_le_maxWord32 hlast
  have hread : Bytes.toNatLE (Bytes.ofNatLE 4 next) = next := by
    rw [Bytes.toNatLE_ofNatLE]
    exact Nat.mod_eq_of_lt hsize
  have hlt : ¬ UInt32.ofNat next < Schema.firstPrefix := by
    rw [UInt32.lt_iff_toNat_lt, UInt32.toNat_ofNat_of_lt' hsize]
    omega
  unfold counterOf
  simp only [hval, hread, Bytes.length_ofNatLE, ne_eq, not_true_eq_false, if_false, if_neg hlt]

/-- What the settings have as the counter of prefixes is found under its key. -/
theorem getRow_settings {m : MemoryStore} {cache : OrderedMap String Schema}
    (h : l.Describes limits m cache tables next) (hentries : db.entries = m.entries) :
    getRow Schema.settings (textRecord [("key", counterKey)]) db =
      .ok ((counterRow next).map fun others =>
        Record.ofRow Schema.settings (.bytes counterKey :: others)) db := by
  obtain ⟨rows, hrows, hcounter⟩ := h.settings
  have hholds : l.Holds db.entries := by
    rw [hentries]
    exact h.holds
  rw [getRow_counter hholds hrows, hcounter]

/-- The stored counter of prefixes is read back. -/
theorem readCounter_eq (h : l.Describes limits (Store.contents db.store) db.cache tables next) :
    readCounter db = .ok (storedCounter next) db := by
  unfold readCounter
  rw [Action.bind_ok (getRow_settings h rfl)]
  unfold counterRow storedCounter
  split
  · rfl
  · have hread := counterOf_eq h.first_le h.le_last
    simp only [Option.map_some, hread]
    rfl

end Database

end PagedTables
