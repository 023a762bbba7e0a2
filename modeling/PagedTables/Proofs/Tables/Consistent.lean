/-
# Consistent databases

A database relies on its built-in tables: on the counter of prefixes in the settings, and on the
definitions in the catalog. Its clients can write into these tables, too, so that nothing ensures
what they say. Here is what a database needs of them, and what it has of the other tables.

* `Database.Consistent` : what the built-in tables have to say;
* `Database.Consistent.congr`, `Database.Consistent.enter` : how they stay consistent;
* `Layout.Backs` : a store in memory with the rows of all tables at hand;
* `Layout.Backs.changeRows`, `Layout.Backs.remember` : a row changes, a schema comes to hand.
-/
import Mathlib
import PagedTables.Proofs.Tables.Recorded
import PagedTables.Proofs.Tables.Undone

namespace PagedTables

open PagedTables.Action

namespace Database

/-! ## Built-in tables -/

section Store

variable {κ : Type} [Store κ] {db t : Database κ} {name : String} {s : Schema} {p : UInt32}

/-- The schema that a name stands for, or why there is none. -/
def found (db : Database κ) (name : String) : Except DatabaseError Schema :=
  (Action.outcome (resolve name) db).1

omit [Store κ] in
/-- A schema that comes to hand. -/
theorem atHand_remember (hname : Schema.builtIn? s.name = none) :
    AtHand { db with cache := db.cache.insert s.name s } s.name s := by
  rw [AtHand, hname, Option.none_or, OrderedMap.lookup_insert_self]

omit [Store κ] in
/-- It leaves the schemas of other names at hand. -/
theorem atHand_remember_of_ne {s' : Schema} (hne : name ≠ s.name) :
    AtHand { db with cache := db.cache.insert s.name s } name s' ↔ db.AtHand name s' := by
  rw [AtHand, AtHand, OrderedMap.lookup_insert_of_ne _ _ hne]

omit [Store κ] in
/-- A schema that is not at hand is not built in. -/
theorem builtIn?_of_not_atHand (h : ∀ s, ¬db.AtHand name s) : Schema.builtIn? name = none :=
  Option.eq_none_iff_forall_ne_some.mpr fun s hs => h s (by rw [AtHand, hs, Option.some_or])

/-- A key with a certain prefix is stored. -/
def Occupied (db : Database κ) (p : UInt32) : Prop :=
  ∃ e ∈ db.entries.toList, prefixKey p <+: e.1

/-- The built-in tables are consistent: the counter of prefixes can be read, every name stands for
a table or is free, the tables have different prefixes below the counter, and nothing is stored
under the prefix of a table that has not been used. -/
structure Consistent (db : Database κ) : Prop where
  counter : ∃ previous, (Action.outcome readCounter db).1 = .ok previous
  known : ∀ name, (∃ s, db.found name = .ok s) ∨ db.found name = .error (.tableNotFound name)
  below : ∀ {name s}, db.found name = .ok s → s.keyPrefix < db.upcoming
  distinct : ∀ {name name' s s'}, db.found name = .ok s → db.found name' = .ok s' →
    s.keyPrefix = s'.keyPrefix → name = name'
  unused : ∀ {name s}, db.found name = .ok s → (∀ s', ¬db.AtHand name s') →
    ¬db.Occupied s.keyPrefix

/-- The counter that the rows of the settings have. -/
def counterIn (rows : Rows) : Except DatabaseError (Option UInt32) :=
  match rows.lookup [.bytes counterKey] with
  | some others => some <$> counterOf (Record.ofRow Schema.settings (.bytes counterKey :: others))
  | none => .ok none

/-- The schema that the rows of the catalog define for a table of a name. -/
def definitionIn (rows : Rows) (name : String) : Except DatabaseError Schema :=
  match rows.lookup [.ofText name] with
  | some others =>
    (schemaFromRow name (Record.ofRow Schema.catalog (.ofText name :: others))).mapError .catalog
  | none => .error (.tableNotFound name)

/-- The rows of the settings with another counter. -/
def counted (counters : Rows) (n : Nat) : Table :=
  Table.put ⟨Schema.settings, counters⟩ [.bytes counterKey] [.bytes (Bytes.ofNatLE 4 n)]

/-- The rows of the catalog with the definition of a table. -/
def defined (rows : Rows) (s : Schema) : Table :=
  Table.put ⟨Schema.catalog, rows⟩ [.ofText s.name] (schemaRow s)

/-- A counter that is put into the settings is read back. -/
theorem counterIn_counted (counters : Rows) {n : Nat} (hfirst : Schema.firstPrefix.toNat ≤ n)
    (hlast : n ≤ maxWord32) :
    counterIn (counted counters n).rows = .ok (some (UInt32.ofNat n)) := by
  have hlookup : (counted counters n).rows.lookup [.bytes counterKey] =
      some [.bytes (Bytes.ofNatLE 4 n)] := OrderedMap.lookup_insert_self ..
  rw [counterIn, hlookup]
  simp only [counterOf_eq hfirst hlast]
  rfl

variable {l : Layout} {rows : Rows}

/-- The counter is read from the rows of the settings. -/
theorem readCounter_of_rows (h : l.Holds db.entries)
    (hrows : l Schema.settings.keyPrefix = some ⟨Schema.settings, rows⟩) :
    readCounter db = Action.ofExcept (counterIn rows) db := by
  unfold readCounter counterIn
  rw [bind_ok (getRow_counter h hrows)]
  cases rows.lookup [.bytes counterKey] with
  | none => rfl
  | some others =>
    simp only [Option.map_some]
    cases counterOf (Record.ofRow Schema.settings (.bytes counterKey :: others)) <;> rfl

/-- The counter is what the rows of the settings say. -/
theorem counter_of_rows (h : l.Holds db.entries)
    (hrows : l Schema.settings.keyPrefix = some ⟨Schema.settings, rows⟩) :
    (Action.outcome readCounter db).1 = counterIn rows := by
  rw [outcome, readCounter_of_rows h hrows]
  cases counterIn rows <;> rfl

/-- A schema that is not at hand is read from the catalog. -/
theorem resolve_of_rows (h : l.Holds db.entries)
    (hrows : l Schema.catalog.keyPrefix = some ⟨Schema.catalog, rows⟩)
    (hhand : ∀ s, ¬db.AtHand name s) :
    resolve name db =
      match definitionIn rows name with
      | .ok s => .ok s { db with cache := db.cache.insert s.name s }
      | .error e => .error e db := by
  have hnone : (Schema.builtIn? name).or (db.cache.lookup name) = none :=
    Option.eq_none_iff_forall_ne_some.mpr hhand
  unfold resolve definitionIn
  rw [get_bind, hnone]
  simp only
  rw [bind_ok (getRow_name h hrows name)]
  cases rows.lookup [.ofText name] with
  | none => rfl
  | some others =>
    simp only [Option.map_some]
    cases schemaFromRow name (Record.ofRow Schema.catalog (.ofText name :: others)) <;> rfl

/-- A name of a schema at hand stands for it. -/
theorem found_of_atHand (h : db.AtHand name s) : db.found name = .ok s := by
  rw [found, outcome, resolve_of_atHand h]

/-- Any other name stands for what the rows of the catalog say. -/
theorem found_of_rows (h : l.Holds db.entries)
    (hrows : l Schema.catalog.keyPrefix = some ⟨Schema.catalog, rows⟩)
    (hhand : ∀ s, ¬db.AtHand name s) : db.found name = definitionIn rows name := by
  rw [found, outcome, resolve_of_rows h hrows hhand]
  cases definitionIn rows name <;> rfl

/-- A name stands for the same schema while its row in the catalog stays. -/
theorem found_congr {l' : Layout} {rows' : Rows} (h : l.Holds db.entries) (h' : l'.Holds t.entries)
    (hrows : l Schema.catalog.keyPrefix = some ⟨Schema.catalog, rows⟩)
    (hrows' : l' Schema.catalog.keyPrefix = some ⟨Schema.catalog, rows'⟩)
    (hrow : rows'.lookup [.ofText name] = rows.lookup [.ofText name])
    (hhand : ∀ s, t.AtHand name s ↔ db.AtHand name s) : t.found name = db.found name := by
  -- only a schema that is not at hand is looked up
  by_cases hs : ∃ s, db.AtHand name s
  · obtain ⟨s, hs⟩ := hs
    rw [found_of_atHand hs, found_of_atHand ((hhand s).mpr hs)]
  · have hnone : ∀ s, ¬db.AtHand name s := not_exists.mp hs
    rw [found_of_rows h hrows hnone,
      found_of_rows h' hrows' fun s => mt (hhand s).mp (hnone s), definitionIn, definitionIn, hrow]

omit [Store κ] in
/-- A definition that is read belongs to its name and follows the rules. -/
theorem of_definitionIn (h : definitionIn rows name = .ok s) :
    s.name = name ∧ s.check = .ok () := by
  unfold definitionIn schemaFromRow at h
  split at h
  · split at h
    · cases h
    · split at h
      · cases h
      · next s' _ =>
        split at h
        · cases h
        · next hname =>
          cases hcheck : s'.check with
          | error fault =>
            rw [hcheck] at h
            cases h
          | ok _ =>
            rw [hcheck] at h
            cases h
            exact ⟨not_not.mp fun hne => hname (.inl hne), hcheck⟩
  · cases h

/-- The next prefix is the counter, or the first prefix while there is none. -/
theorem upcoming_of_counter {previous : Option UInt32}
    (h : (Action.outcome readCounter db).1 = .ok previous) :
    db.upcoming = previous.getD Schema.firstPrefix := by
  rw [upcoming, h]
  rfl

/-- The counter may have moved on. -/
theorem Consistent.mono (h : db.Consistent) {previous : Option UInt32}
    (hcounter : (Action.outcome readCounter t).1 = .ok previous)
    (hle : db.upcoming ≤ previous.getD Schema.firstPrefix)
    (hfound : ∀ name, t.found name = db.found name)
    (hunused : ∀ {name s}, db.found name = .ok s → (∀ s', ¬t.AtHand name s') →
      ¬t.Occupied s.keyPrefix) : t.Consistent where
  counter := ⟨previous, hcounter⟩
  known := by
    intro name
    rw [hfound]
    exact h.known name
  below := by
    intro name s hs
    rw [hfound] at hs
    rw [upcoming_of_counter hcounter]
    exact UInt32.lt_of_lt_of_le (h.below hs) hle
  distinct := by
    intro name name' s s' hs hs'
    rw [hfound] at hs hs'
    exact h.distinct hs hs'
  unused := by
    intro name s hs
    rw [hfound] at hs
    exact hunused hs

/-- Nothing but the counter, the definitions and the prefixes of unused tables matters. -/
theorem Consistent.congr (h : db.Consistent)
    (hcounter : (Action.outcome readCounter t).1 = (Action.outcome readCounter db).1)
    (hfound : ∀ name, t.found name = db.found name)
    (hunused : ∀ {name s}, db.found name = .ok s → (∀ s', ¬t.AtHand name s') →
      ¬t.Occupied s.keyPrefix) : t.Consistent := by
  obtain ⟨previous, hprevious⟩ := h.counter
  refine h.mono (hcounter.trans hprevious) ?_ hfound hunused
  rw [upcoming_of_counter hprevious]
  exact UInt32.le_refl _

/-- A table with a new name takes the prefix that the counter has, and the counter moves on. -/
theorem Consistent.enter (h : db.Consistent) {next : UInt32}
    (hcounter : (Action.outcome readCounter t).1 = .ok (some next)) (hnext : db.upcoming < next)
    (hplaced : s.keyPrefix = db.upcoming) (hhand : t.AtHand s.name s)
    (hfound : ∀ name, name ≠ s.name → t.found name = db.found name)
    (hunused : ∀ {name s'}, name ≠ s.name → db.found name = .ok s' →
      (∀ s'', ¬t.AtHand name s'') → ¬t.Occupied s'.keyPrefix) : t.Consistent := by
  have hnew := found_of_atHand hhand
  -- the new table, or one that was there and has a smaller prefix
  have hcases : ∀ {name s'}, t.found name = .ok s' → name = s.name ∧ s' = s ∨
      name ≠ s.name ∧ db.found name = .ok s' ∧ s'.keyPrefix < s.keyPrefix := by
    intro name s' hs'
    by_cases heq : name = s.name
    · rw [heq, hnew] at hs'
      exact .inl ⟨heq, (Except.ok.inj hs').symm⟩
    · rw [hfound name heq] at hs'
      exact .inr ⟨heq, hs', hplaced ▸ h.below hs'⟩
  have hupcoming : t.upcoming = next := upcoming_of_counter hcounter
  refine ⟨⟨_, hcounter⟩, ?_, ?_, ?_, ?_⟩
  · intro name
    by_cases heq : name = s.name
    · rw [heq]
      exact .inl ⟨s, hnew⟩
    · rw [hfound name heq]
      exact h.known name
  · intro name s' hs'
    rw [hupcoming]
    rcases hcases hs' with ⟨-, rfl⟩ | ⟨-, -, hlt⟩
    · exact hplaced ▸ hnext
    · exact UInt32.lt_trans hlt (hplaced ▸ hnext)
  · -- the prefix of the new table is above those of all others
    intro name name' s' s'' hs' hs'' heq
    rcases hcases hs' with ⟨rfl, rfl⟩ | ⟨-, hold, hlt⟩
    · rcases hcases hs'' with ⟨rfl, -⟩ | ⟨-, -, hlt⟩
      · rfl
      · exact absurd (heq ▸ hlt) (UInt32.lt_irrefl _)
    · rcases hcases hs'' with ⟨-, rfl⟩ | ⟨-, hold', -⟩
      · exact absurd (heq ▸ hlt) (UInt32.lt_irrefl _)
      · exact h.distinct hold hold' heq
  · intro name s' hs' hnot
    rcases hcases hs' with ⟨rfl, -⟩ | ⟨hne, hold, -⟩
    · exact absurd hhand (hnot s)
    · exact hunused hne hold hnot

/-- The prefix of a table of a caller is not that of a built-in table. -/
theorem Consistent.ne_builtIn (h : db.Consistent) (hs : db.found name = .ok s)
    (hname : Schema.builtIn? name = none) :
    s.keyPrefix ≠ Schema.settings.keyPrefix ∧ s.keyPrefix ≠ Schema.catalog.keyPrefix := by
  have hsettings : db.AtHand Schema.settingsName Schema.settings := rfl
  have hcatalog : db.AtHand Schema.catalogName Schema.catalog := rfl
  constructor
  · intro heq
    rw [h.distinct hs (found_of_atHand hsettings) heq] at hname
    cases hname
  · intro heq
    rw [h.distinct hs (found_of_atHand hcatalog) heq] at hname
    cases hname

end Store

end Database

/-! ## Rows of the tables at hand -/

namespace Layout

variable {l l' : Layout} {db t : Database MemoryStore} {name : String} {s : Schema}
variable {rows rows' : Rows} {p : UInt32}

open Database

/-- The store has the rows of all tables at hand, and nothing behind their prefixes. -/
structure Backs (l : Layout) (db : Database MemoryStore) : Prop where
  fits : db.store.Fits
  holds : l.Holds db.entries
  placed : ∀ {name s}, db.AtHand name s → ∃ rows, l s.keyPrefix = some ⟨s, rows⟩
  above : ∀ {p t}, l p = some t → ∃ name s, db.AtHand name s ∧ p ≤ s.keyPrefix

/-- A key with a certain prefix is a row of the table there. -/
theorem Holds.occupied_iff (h : l.Holds db.entries) :
    db.Occupied p ↔ ∃ t key others, l p = some t ∧ t.rows.lookup key = some others := by
  constructor
  · rintro ⟨⟨k, v⟩, he, hstarts⟩
    have hk := (OrderedMap.mem_toList_iff _).mp he
    obtain ⟨q, t, key, ht, hkey, rfl⟩ := h.owner hk
    obtain rfl := prefixKey_isPrefix_iff.mp hstarts
    obtain ⟨others, hothers, -⟩ := (h.lookup_encodeKey_iff ht).mp ⟨hk, hkey⟩
    exact ⟨t, key, others, ht, hothers⟩
  · rintro ⟨t, key, others, ht, hothers⟩
    obtain ⟨hk, -⟩ := (h.lookup_encodeKey_iff ht).mpr ⟨others, hothers, rfl⟩
    exact ⟨_, (OrderedMap.mem_toList_iff _).mpr hk, prefixKey_isPrefix_iff.mpr rfl⟩

/-- A prefix with a row is occupied. -/
theorem occupied_of_lookup {key : List Value} {v : Bytes}
    (h : db.entries.lookup (encodeKey p key) = some v) : db.Occupied p :=
  ⟨_, (OrderedMap.mem_toList_iff _).mpr h, prefixKey_isPrefix_iff.mpr rfl⟩

/-- Where the tables are the same, there are keys before if there are keys after. -/
theorem Holds.occupied_congr (h : l.Holds db.entries) (h' : l'.Holds t.entries)
    (hp : l' p = l p) (ht : t.Occupied p) : db.Occupied p := by
  rw [h'.occupied_iff, hp] at ht
  exact h.occupied_iff.mpr ht

namespace Backs

theorem settings (h : l.Backs db) :
    ∃ rows, l Schema.settings.keyPrefix = some ⟨Schema.settings, rows⟩ :=
  have hhand : db.AtHand Schema.settingsName Schema.settings := rfl
  h.placed hhand

theorem catalog (h : l.Backs db) :
    ∃ rows, l Schema.catalog.keyPrefix = some ⟨Schema.catalog, rows⟩ :=
  have hhand : db.AtHand Schema.catalogName Schema.catalog := rfl
  h.placed hhand

/-- There is nothing above the tables at hand. -/
theorem eq_none (h : l.Backs db) (hp : ∀ {name s}, db.AtHand name s → s.keyPrefix < p) :
    l p = none := by
  by_contra hne
  obtain ⟨t, ht⟩ := Option.ne_none_iff_exists'.mp hne
  obtain ⟨name, s, hs, hle⟩ := h.above ht
  exact UInt32.lt_irrefl _ (UInt32.lt_of_le_of_lt hle (hp hs))

/-- **Rows of a table at hand** change. -/
theorem changeRows (h : l.Backs db) (hs : db.AtHand name s)
    (hl : l s.keyPrefix = some ⟨s, rows⟩) (hcache : t.cache = db.cache) (hfits : t.store.Fits)
    (hholds : (l.set s.keyPrefix ⟨s, rows'⟩).Holds t.entries) :
    (l.set s.keyPrefix ⟨s, rows'⟩).Backs t where
  fits := hfits
  holds := hholds
  placed := by
    intro name' s' hs'
    unfold AtHand at hs'
    rw [hcache] at hs'
    obtain ⟨rows'', hl'⟩ := h.placed hs'
    by_cases heq : s'.keyPrefix = s.keyPrefix
    · -- two tables under one prefix have one schema
      rw [heq, hl] at hl'
      obtain rfl := congrArg Table.schema (Option.some.inj hl')
      exact ⟨rows', set_self ..⟩
    · exact ⟨rows'', by rw [set_of_ne _ _ heq, hl']⟩
  above := by
    intro p u hu
    unfold AtHand
    rw [hcache]
    rcases set_eq_some_iff.mp hu with ⟨rfl, -⟩ | ⟨-, hu⟩
    · exact ⟨name, s, hs, UInt32.le_refl _⟩
    · exact h.above hu

/-- **The counter moves.** -/
theorem count (h : l.Backs db)
    (hcounters : l Schema.settings.keyPrefix = some ⟨Schema.settings, rows⟩) {n : Nat}
    (hcheck : db.store.checkEntry (counterEntry n).1 (counterEntry n).2 = .ok ()) :
    (l.set Schema.settings.keyPrefix (counted rows n)).Backs
      { db with store := db.store.load (counterEntry n).1 (counterEntry n).2 } :=
  have hsettings : db.AtHand Schema.settingsName Schema.settings := rfl
  h.changeRows hsettings hcounters rfl (h.fits.load hcheck) (h.holds.put hcounters rfl rfl)

/-- **The counter moves on, and a definition is stored.** -/
theorem allot (h : l.Backs db)
    (hcounters : l Schema.settings.keyPrefix = some ⟨Schema.settings, rows⟩)
    (hrows : l Schema.catalog.keyPrefix = some ⟨Schema.catalog, rows'⟩) {n : Nat}
    {m : MemoryStore} (hm : m = db.store.load (counterEntry n).1 (counterEntry n).2)
    (hcheck : db.store.checkEntry (counterEntry n).1 (counterEntry n).2 = .ok ())
    (hcheck' : m.checkEntry (schemaEntry s).1 (schemaEntry s).2 = .ok ()) :
    ∃ l' : Layout, l'.Backs { db with store := m.load (schemaEntry s).1 (schemaEntry s).2 } ∧
      l' Schema.settings.keyPrefix = some (counted rows n) ∧
      l' Schema.catalog.keyPrefix = some (defined rows' s) ∧
      ∀ q, q ≠ Schema.settings.keyPrefix → q ≠ Schema.catalog.keyPrefix → l' q = l q := by
  subst hm
  have hcatalog : db.AtHand Schema.catalogName Schema.catalog := rfl
  have hcounted := h.count hcounters hcheck
  have hrows' : l.set Schema.settings.keyPrefix (counted rows n) Schema.catalog.keyPrefix =
      some ⟨Schema.catalog, rows'⟩ := by
    rw [set_of_ne _ _ (by decide), hrows]
  refine ⟨_, hcounted.changeRows hcatalog hrows' rfl (hcounted.fits.load hcheck')
    (hcounted.holds.put hrows' rfl rfl), ?_, set_self .., ?_⟩
  · rw [set_of_ne _ _ (by decide), set_self]
  · intro q hq hq'
    rw [set_of_ne _ _ hq', set_of_ne _ _ hq]

/-- **A schema comes to hand**, for a table that has no rows. -/
theorem remember (h : l.Backs db) (hsound : s.Sound) (hname : Schema.builtIn? s.name = none)
    (hvacant : ∀ key, db.entries.lookup (encodeKey s.keyPrefix key) = none)
    (hother : ∀ {name' s'}, db.AtHand name' s' → name' ≠ s.name → s'.keyPrefix ≠ s.keyPrefix)
    (hsame : ∀ {s'}, db.AtHand s.name s' → s'.keyPrefix ≤ s.keyPrefix) :
    (l.set s.keyPrefix ⟨s, ∅⟩).Backs { db with cache := db.cache.insert s.name s } := by
  refine ⟨h.fits, h.holds.place hvacant hsound rfl, ?_, ?_⟩
  · intro name' s' hs'
    by_cases heq : name' = s.name
    · subst heq
      obtain rfl := Option.some.inj ((atHand_remember hname).symm.trans hs')
      exact ⟨∅, set_self ..⟩
    · have hs' := (atHand_remember_of_ne heq).mp hs'
      obtain ⟨rows, hl⟩ := h.placed hs'
      exact ⟨rows, by rw [set_of_ne _ _ (hother hs' heq), hl]⟩
  · intro p u hu
    rcases set_eq_some_iff.mp hu with ⟨rfl, -⟩ | ⟨-, hu⟩
    · exact ⟨s.name, s, atHand_remember hname, UInt32.le_refl _⟩
    · obtain ⟨name', s', hs', hle⟩ := h.above hu
      by_cases heq : name' = s.name
      · subst heq
        exact ⟨s.name, s, atHand_remember hname, UInt32.le_trans hle (hsame hs')⟩
      · exact ⟨name', s', (atHand_remember_of_ne heq).mpr hs', hle⟩

end Backs

end Layout

end PagedTables
