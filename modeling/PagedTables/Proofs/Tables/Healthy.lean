/-
# Healthy databases

A database is healthy while it has the rows of all tables at hand and its built-in tables are
consistent. What is asked of it then fails for reasons of the caller only. It stays healthy, unless
a row of a built-in table is changed directly.

* `Database.Healthy.exists_resolved` : the schema of a table comes to hand;
* `Database.Healthy.benign_setRow`, `Database.Healthy.benign_deleteRow` : changing a row;
* `Database.Healthy.benign_addTable` : creating a table.
-/
import PagedTables.Proofs.Tables.Consistent

namespace PagedTables

open PagedTables.Action

namespace Database

variable {db t : Database MemoryStore} {l : Layout} {name : String} {s : Schema}
variable {rows rows' : Rows} {α β : Type}

/-- A database in use with the rows of all tables at hand. -/
structure Sane (db : Database MemoryStore) : Prop where
  poison : db.poison = none
  backed : ∃ l : Layout, l.Backs db

/-- Its built-in tables are consistent, too. -/
structure Healthy (db : Database MemoryStore) : Prop extends Sane db where
  consistent : db.Consistent

/-- A database that is healthy unless its built-in tables have been written into. -/
structure Kept (direct : Prop) (db : Database MemoryStore) : Prop extends Sane db where
  consistent : ¬direct → db.Consistent

/-- A healthy database is healthy whatever was written into its built-in tables. -/
theorem Healthy.kept (h : db.Healthy) (direct : Prop) : db.Kept direct :=
  ⟨h.toSane, fun _ => h.consistent⟩

/-- A database is healthy if what was written has left it consistent. -/
theorem Kept.healthy {direct : Prop} (h : db.Kept direct) (hdirect : direct → db.Consistent) :
    db.Healthy :=
  ⟨h.toSane, (Classical.em direct).elim hdirect h.consistent⟩

/-- A table at hand is in the store. -/
theorem Healthy.hasTable (h : db.Healthy) (hs : db.AtHand name s) : db.HasTable s := by
  obtain ⟨l, hl⟩ := h.backed
  obtain ⟨rows, hrows⟩ := hl.placed hs
  have hbelow : s.keyPrefix.toNat < db.upcoming.toNat :=
    h.consistent.below (found_of_atHand hs)
  exact ⟨l, s.keyPrefix, _, hl.holds, hrows,
    Nat.lt_of_lt_of_le hbelow (Nat.le_pred_of_lt db.upcoming.toNat_lt), rfl⟩

/-- **A definition is used** for the first time. -/
theorem Healthy.remember (h : db.Healthy) (hname : Schema.builtIn? s.name = none)
    (hhand : ∀ s', ¬db.AtHand s.name s') (hs : db.found s.name = .ok s) (hsound : s.Sound) :
    Healthy { db with cache := db.cache.insert s.name s } := by
  obtain ⟨l, hl⟩ := h.backed
  obtain ⟨rows, hrows⟩ := hl.catalog
  obtain ⟨settings, hsettings⟩ := hl.settings
  refine ⟨⟨h.poison, l.set s.keyPrefix ⟨s, ∅⟩, hl.remember hsound hname ?_ ?_ ?_⟩,
    h.consistent.congr ?_ ?_ ?_⟩
  · -- a table that was never used has no rows
    intro key
    by_contra hstored
    obtain ⟨v, hv⟩ := Option.ne_none_iff_exists'.mp hstored
    exact h.consistent.unused hs hhand (Layout.occupied_of_lookup hv)
  · intro name' s' hs' hne heq
    exact hne (h.consistent.distinct (found_of_atHand hs') hs heq)
  · exact fun hs' => absurd hs' (hhand _)
  · refine (counter_of_rows ?_ hsettings).trans (counter_of_rows hl.holds hsettings).symm
    exact hl.holds
  · intro name'
    by_cases heq : name' = s.name
    · rw [heq, hs]
      exact found_of_atHand (atHand_remember hname)
    · exact found_congr hl.holds hl.holds hrows hrows rfl fun s' => atHand_remember_of_ne heq
  · intro name' s' hs' hnot
    refine h.consistent.unused hs' fun s'' hs'' => ?_
    by_cases heq : name' = s.name
    · rw [heq] at hs''
      exact hhand s'' hs''
    · exact hnot s'' ((atHand_remember_of_ne heq).mpr hs'')

/-- **The schema of a table comes to hand.** All that a call finds out about a name it finds out
from a healthy database that does not change by it. -/
theorem Healthy.exists_resolved (h : db.Healthy) (name : String) :
    ∃ t : Database MemoryStore, t.Healthy ∧ resolve name db = resolve name t ∧
      Reads (resolve name) t (t.AtHand name) := by
  by_cases hhand : ∃ s, db.AtHand name s
  · obtain ⟨s, hs⟩ := hhand
    exact ⟨db, h, rfl, .of_ok (resolve_of_atHand hs) hs⟩
  have hhand : ∀ s, ¬db.AtHand name s := not_exists.mp hhand
  obtain ⟨l, hl⟩ := h.backed
  obtain ⟨rows, hrows⟩ := hl.catalog
  have hresolve := resolve_of_rows hl.holds hrows hhand
  have hdefinition := found_of_rows hl.holds hrows hhand
  rcases h.consistent.known name with ⟨s, hs⟩ | hfree
  · -- the definition that is read belongs to the name, so that it is found again once it is at hand
    rw [← hdefinition, hs] at hresolve
    obtain ⟨rfl, hcheck⟩ := of_definitionIn (hdefinition.symm.trans hs)
    have hname := builtIn?_of_not_atHand hhand
    have hat : AtHand { db with cache := db.cache.insert s.name s } s.name s :=
      atHand_remember hname
    exact ⟨_, h.remember hname hhand hs (Schema.sound_of_check hcheck),
      hresolve.trans (resolve_of_atHand hat).symm, .of_ok (resolve_of_atHand hat) hat⟩
  · rw [← hdefinition, hfree] at hresolve
    exact ⟨db, h, rfl, .of_error hresolve rfl⟩

/-! ## Actions that do no harm -/

/-- The action is answered with a certain property, or it fails for a reason of its caller and
leaves a healthy database. -/
def Benign (act : Action DatabaseError (Database MemoryStore) α) (db : Database MemoryStore)
    (P : α → Database MemoryStore → Prop) : Prop :=
  (∃ a t, act db = .ok a t ∧ P a t) ∨
    ∃ e t, act db = .error e t ∧ e.isFatal = false ∧ t.Healthy

section Benign

variable {act : Action DatabaseError (Database MemoryStore) α}
variable {P : α → Database MemoryStore → Prop} {Q : β → Database MemoryStore → Prop}
variable {rest : α → Action DatabaseError (Database MemoryStore) β}

namespace Benign

theorem of_ok {a : α} (hrun : act db = .ok a t) (h : P a t) : Benign act db P :=
  .inl ⟨a, t, hrun, h⟩

theorem of_error {e : DatabaseError} (hrun : act db = .error e t) (he : e.isFatal = false)
    (ht : t.Healthy) : Benign act db P :=
  .inr ⟨e, t, hrun, he, ht⟩

theorem mono {Q : α → Database MemoryStore → Prop} (h : Benign act db P)
    (hPQ : ∀ a t, P a t → Q a t) : Benign act db Q :=
  h.imp (fun ⟨a, t, hrun, ha⟩ => ⟨a, t, hrun, hPQ a t ha⟩) id

theorem map (h : Benign act db P) (f : α → β) (hf : ∀ a t, P a t → Q (f a) t) :
    Benign (f <$> act) db Q := by
  rcases h with ⟨a, t, hrun, ha⟩ | ⟨e, t, hrun, he, ht⟩
  · exact .of_ok (map_ok f hrun) (hf a t ha)
  · exact .of_error (map_error f hrun) he ht

/-- What an action answers may be put in other words. -/
theorem reword {R : Database MemoryStore → Prop} (h : Benign act db fun _ t => R t) (f : α → β) :
    Benign (f <$> act) db fun _ t => R t :=
  h.map f fun _ _ => id

theorem guarded (hpoison : db.poison = none) (h : Benign act db P) :
    Benign (Database.guarded act) db P := by
  rcases h with ⟨a, t, hrun, ha⟩ | ⟨e, t, hrun, he, ht⟩
  · exact .of_ok (guarded_ok hpoison hrun) ha
  · exact .of_error (guarded_error hpoison hrun he) he ht

theorem guard {c : Prop} [Decidable c] {e : DatabaseError} {refusal : PUnit → Action _ _ α}
    (he : e.isFatal = false) (hdb : db.Healthy) (h : ¬c → Benign act db P) :
    Benign (if c then throw e >>= refusal else act) db P := by
  split
  · exact .of_error rfl he hdb
  · next hc => exact h hc

end Benign

/-- Reading does no harm. -/
theorem Reads.benign {P : α → Prop} (h : Reads act db P) (hdb : db.Healthy) :
    Benign act db fun a t => t.Healthy ∧ P a := by
  rcases h with ⟨a, hrun, ha⟩ | ⟨e, hrun, he⟩
  · exact .of_ok hrun ⟨hdb, ha⟩
  · exact .of_error hrun he hdb

theorem Reads.benign_bind {P : α → Prop} (h : Reads act db P) (hdb : db.Healthy)
    (hrest : ∀ a, P a → Benign (rest a) db Q) : Benign (act >>= rest) db Q := by
  rcases h with ⟨a, hrun, ha⟩ | ⟨e, hrun, he⟩
  · unfold Benign
    rw [bind_ok hrun]
    exact hrest a ha
  · exact .of_error (bind_error hrun) he hdb

end Benign

/-! ## Rows -/

/-- Where rows of a table at hand change, the prefixes of unused tables stay free. -/
theorem Healthy.unused_of_changeRows (h : db.Healthy) (hl : l.Backs db) (hs : db.AtHand name s)
    (ht : (l.set s.keyPrefix ⟨s, rows'⟩).Backs t) (hcache : t.cache = db.cache) {name' : String}
    {s' : Schema} (hs' : db.found name' = .ok s') (hnot : ∀ s'', ¬t.AtHand name' s'') :
    ¬t.Occupied s'.keyPrefix := by
  unfold AtHand at hnot
  rw [hcache] at hnot
  have hne : s'.keyPrefix ≠ s.keyPrefix := by
    intro heq
    obtain rfl := h.consistent.distinct hs' (found_of_atHand hs) heq
    exact hnot s hs
  intro hoccupied
  exact h.consistent.unused hs' hnot
    (hl.holds.occupied_congr ht.holds (Layout.set_of_ne _ _ hne) hoccupied)

/-- **A row changes** in a table at hand. What the built-in tables say stays the same, unless they
are changed themselves. -/
theorem Healthy.changeRows (h : db.Healthy) (hl : l.Backs db) (hs : db.AtHand name s)
    (hrows : l s.keyPrefix = some ⟨s, rows⟩) {m : MemoryStore} (hfits : m.Fits)
    (hholds : (l.set s.keyPrefix ⟨s, rows'⟩).Holds m.entries) :
    Kept (Schema.builtIn? name ≠ none) { db with store := m } := by
  have hbacks : (l.set s.keyPrefix ⟨s, rows'⟩).Backs { db with store := m } :=
    hl.changeRows hs hrows rfl hfits hholds
  refine ⟨⟨h.poison, _, hbacks⟩, fun hname => ?_⟩
  obtain ⟨hsettings, hcatalog⟩ :=
    h.consistent.ne_builtIn (found_of_atHand hs) (not_not.mp hname)
  obtain ⟨counters, hcounters⟩ := hl.settings
  obtain ⟨schemas, hschemas⟩ := hl.catalog
  refine h.consistent.congr ?_ ?_ (h.unused_of_changeRows hl hs hbacks rfl)
  · rw [counter_of_rows hl.holds hcounters]
    refine counter_of_rows hbacks.holds ?_
    rw [Layout.set_of_ne _ _ hsettings.symm, hcounters]
  · intro name'
    refine found_congr hl.holds hbacks.holds hschemas ?_ rfl fun _ => Iff.rfl
    rw [Layout.set_of_ne _ _ hcatalog.symm, hschemas]

/-- **Writing a row** of a table at hand. -/
theorem Healthy.benign_setRow (h : db.Healthy) (hs : db.AtHand name s) (r : Record)
    (mode : WriteMode) :
    Benign (setRow s r mode) db fun _ t => t.Kept (Schema.builtIn? name ≠ none) := by
  obtain ⟨l, hl⟩ := h.backed
  obtain ⟨rows, hrows⟩ := hl.placed hs
  cases hrow : (Table.mk s rows).rowOf r with
  | error e =>
    have hexactly := Except.map_eq_error_iff.mp hrow
    exact .of_error (setRow_refused hrow mode) (Record.isFatal_of_exactly hexactly) h
  | ok row =>
    obtain ⟨key, others⟩ := row
    obtain ⟨hkey, hothers⟩ := Table.typed_of_rowOf (hl.holds.sound hrows).schema hrow
    have hput := hl.holds.put_eq hrows hkey hothers mode
    have hset := setRow_obeys db MemoryStore.lawful rfl hrow mode
    rcases hset.cases_memory with ⟨outcome, m, hm, hrun⟩ | ⟨e, he, hrun⟩
    · refine .of_ok hrun ?_
      obtain ⟨_, hcheck, hm⟩ := Except.map_eq_ok_iff.mp (hput.symm.trans hm)
      obtain ⟨-, rfl⟩ := Prod.mk.inj hm
      split
      · refine h.changeRows hl hs hrows (hl.fits.load ?_) (hl.holds.put hrows hkey hothers)
        exact (db.store.checkEntry_eq _ _ _).trans hcheck
      · exact h.kept _
    · have hcheck := Except.map_eq_error_iff.mp (hput.symm.trans he)
      exact .of_error hrun (Limits.isFatal_of_check hcheck) h

/-- **Removing a row** of a table at hand. -/
theorem Healthy.benign_deleteRow (h : db.Healthy) (hs : db.AtHand name s) (r : Record) :
    Benign (deleteRow s r) db fun _ t => t.Kept (Schema.builtIn? name ≠ none) := by
  obtain ⟨l, hl⟩ := h.backed
  obtain ⟨rows, hrows⟩ := hl.placed hs
  cases hkeyOf : (Table.mk s rows).keyOf r with
  | error e =>
    have hexactly : r.exactly s s.keyCount = .error e := hkeyOf
    have hrun : deleteRow (Table.mk s rows).schema r db = .error e db := deleteRow_refused hkeyOf
    exact .of_error hrun (Record.isFatal_of_exactly hexactly) h
  | ok key =>
    have hkey := Table.hasKey_of_keyOf (hl.holds.sound hrows).schema hkeyOf
    have hdelete := deleteRow_obeys db MemoryStore.lawful rfl hkeyOf
    rcases hdelete.cases_memory with ⟨found, m, hm, hrun⟩ | ⟨e, he, -⟩
    · obtain ⟨-, rfl⟩ := Prod.mk.inj (Except.ok.inj hm)
      exact .of_ok hrun
        (h.changeRows hl hs hrows (hl.fits.erase _) (hl.holds.erase hrows hkey))
    · cases he

/-- **The counter is raised directly**, which leaves the built-in tables consistent. -/
theorem Healthy.consistent_of_raise (h : db.Healthy) {n : UInt32} (hn : db.upcoming ≤ n)
    {outcome : WriteOutcome}
    (hrun : set Schema.settingsName (counterRecord n) .upsert db = .ok outcome t) :
    t.Consistent := by
  have hhand : db.AtHand Schema.settingsName Schema.settings := rfl
  have hwritten : setRow Schema.settings (counterRecord n) .upsert db = .ok outcome t :=
    (bind_ok (resolve_of_atHand hhand)).symm.trans (ok_of_guarded hrun)
  obtain ⟨l, hl⟩ := h.backed
  obtain ⟨counters, hcounters⟩ := hl.settings
  obtain ⟨schemas, hschemas⟩ := hl.catalog
  obtain ⟨previous, hprevious⟩ := h.consistent.counter
  obtain ⟨-, hfirst, -⟩ := readCounter_ok (ok_of_outcome hprevious)
  have hupcoming := upcoming_of_counter hprevious
  have hrowOf : (Table.mk Schema.settings counters).rowOf (counterRecord n) =
      .ok ([.bytes counterKey], [.bytes (Bytes.ofNatLE 4 n.toNat)]) := rfl
  obtain ⟨_, hput⟩ := db.store.put_upsert (counterEntry n.toNat).1 (counterEntry n.toNat).2
  have hset := setRow_obeys db MemoryStore.lawful rfl hrowOf .upsert
  rcases hset.cases_memory with ⟨_, m, hm, hdone⟩ | ⟨e, -, hfailed⟩
  · cases hdone.symm.trans hwritten
    obtain ⟨_, hcheck, hm⟩ := Except.map_eq_ok_iff.mp (hput.symm.trans hm)
    obtain ⟨-, rfl⟩ := Prod.mk.inj hm
    have hbacks := hl.count hcounters hcheck
    have hcounter := (counter_of_rows hbacks.holds (Layout.set_self ..)).trans
      (counterIn_counted counters (Nat.le_trans hfirst (hupcoming ▸ hn))
        (Nat.le_pred_of_lt n.toNat_lt))
    refine h.consistent.mono hcounter ?_ ?_ (h.unused_of_changeRows hl hhand hbacks rfl)
    · rw [UInt32.ofNat_toNat]
      exact hn
    · intro name'
      refine found_congr hl.holds hbacks.holds hschemas ?_ rfl fun _ => Iff.rfl
      rw [Layout.set_of_ne _ _ (by decide), hschemas]
  · cases hfailed.symm.trans hwritten

/-! ## Creating a table -/

/-- The check of a schema only reads, and is passed by schemas that break no rule. -/
theorem reads_checkSchema (s : Schema) : Reads (checkSchema s) db fun _ => s.check = .ok () := by
  unfold checkSchema
  cases hcheck : s.check with
  | ok _ => exact .of_ok rfl rfl
  | error fault => exact .of_error rfl rfl

/-- **The schema is entered** under the prefix that the counter has left. -/
theorem Healthy.entered (h : db.Healthy) (hl : l.Backs db)
    (hrows : l Schema.catalog.keyPrefix = some ⟨Schema.catalog, rows⟩)
    (hplaced : s.keyPrefix = db.upcoming) (hfirst : Schema.firstPrefix ≤ db.upcoming)
    (hlast : db.upcoming.toNat ≠ maxWord32) (hname : Schema.builtIn? s.name = none)
    (hsound : s.Sound) {m : MemoryStore}
    (hm : m = db.store.load (counterEntry (db.upcoming.toNat + 1)).1
      (counterEntry (db.upcoming.toNat + 1)).2)
    (hcheck : db.store.checkEntry (counterEntry (db.upcoming.toNat + 1)).1
      (counterEntry (db.upcoming.toNat + 1)).2 = .ok ())
    (hcheck' : m.checkEntry (schemaEntry s).1 (schemaEntry s).2 = .ok ()) :
    Healthy { db with
      store := m.load (schemaEntry s).1 (schemaEntry s).2
      cache := db.cache.insert s.name s } := by
  have hbelow : ∀ {name s'}, db.AtHand name s' → s'.keyPrefix < s.keyPrefix := fun hs' =>
    hplaced ▸ h.consistent.below (found_of_atHand hs')
  have hsettings : Schema.settings.keyPrefix < s.keyPrefix :=
    hbelow (rfl : db.AtHand Schema.settingsName Schema.settings)
  have hcatalog : Schema.catalog.keyPrefix < s.keyPrefix :=
    hbelow (rfl : db.AtHand Schema.catalogName Schema.catalog)
  -- the two rows leave the prefix of the new table free, as everything at hand lies below it
  obtain ⟨counters, hcounters⟩ := hl.settings
  obtain ⟨l', hl', hcounted, hdefined, hother⟩ := hl.allot hcounters hrows hm hcheck hcheck'
  have hfree : l' s.keyPrefix = none :=
    (hother _ (UInt32.ne_of_lt hsettings).symm (UInt32.ne_of_lt hcatalog).symm).trans
      (hl.eq_none hbelow)
  have hbacks := hl'.remember hsound hname (hl'.holds.vacant hfree)
    (fun hs' _ => UInt32.ne_of_lt (hbelow hs')) fun hs' => UInt32.le_of_lt (hbelow hs')
  rw [← Layout.set_of_ne l' ⟨s, ∅⟩ (UInt32.ne_of_lt hsettings)] at hcounted
  rw [← Layout.set_of_ne l' ⟨s, ∅⟩ (UInt32.ne_of_lt hcatalog)] at hdefined
  have hle : db.upcoming.toNat + 1 ≤ maxWord32 :=
    Nat.lt_of_le_of_ne (Nat.le_pred_of_lt db.upcoming.toNat_lt) hlast
  have hnext : db.upcoming < UInt32.ofNat (db.upcoming.toNat + 1) := by
    rw [UInt32.lt_iff_toNat_lt, UInt32.toNat_ofNat_of_lt' (lt_size_of_le_maxWord32 hle)]
    exact Nat.lt_succ_self _
  have hcounter := (counter_of_rows hbacks.holds hcounted).trans
    (counterIn_counted counters (Nat.le_succ_of_le hfirst) hle)
  refine ⟨⟨h.poison, _, hbacks⟩,
    h.consistent.enter hcounter hnext hplaced (atHand_remember hname) ?_ ?_⟩
  · intro name' hne
    refine found_congr hl.holds hbacks.holds hrows hdefined ?_ fun _ => atHand_remember_of_ne hne
    exact OrderedMap.lookup_insert_of_ne _ _ (by simpa [ofText_inj] using hne)
  · -- tables that were never used have prefixes other than the three that got rows
    intro name' s' hne hs' hnot hoccupied
    have hnot' : ∀ s'', ¬db.AtHand name' s'' := fun s'' hs'' =>
      hnot s'' ((atHand_remember_of_ne hne).mpr hs'')
    obtain ⟨hsettings', hcatalog'⟩ := h.consistent.ne_builtIn hs' (builtIn?_of_not_atHand hnot')
    have hlt : s'.keyPrefix < s.keyPrefix := hplaced ▸ h.consistent.below hs'
    refine h.consistent.unused hs' hnot' (hl.holds.occupied_congr hbacks.holds ?_ hoccupied)
    rw [Layout.set_of_ne _ _ (UInt32.ne_of_lt hlt), hother _ hsettings' hcatalog']

/-- **The next prefix is taken**: the counter moves on, and the schema is entered. -/
theorem Healthy.benign_allot (h : db.Healthy) (hl : l.Backs db)
    (hrows : l Schema.catalog.keyPrefix = some ⟨Schema.catalog, rows⟩)
    (hnew : rows.lookup [.ofText s.name] = none) {previous : Option UInt32}
    (hread : readCounter db = .ok previous db) (hplaced : s.keyPrefix = db.upcoming)
    (hlast : db.upcoming.toNat ≠ maxWord32) (hname : Schema.builtIn? s.name = none)
    (hsound : s.Sound) :
    Benign (setRow Schema.settings (counterRecord (db.upcoming + 1)) .upsert >>= fun _ =>
      enter previous s) db fun _ t => t.Healthy := by
  have hupcoming : db.upcoming = previous.getD Schema.firstPrefix := by
    refine upcoming_of_counter ?_
    rw [outcome, hread]
  obtain ⟨-, hfirst, hcounter⟩ := readCounter_ok hread
  obtain ⟨counters, hcounters⟩ := hl.settings
  have hfits : ∀ counter ∈ previous,
      db.store.checkEntry (counterEntry 0).1 (counterEntry counter.toNat).2 = .ok () := by
    rintro counter rfl
    exact hl.fits _ _ hcounter
  have hmoved : (l.set Schema.settings.keyPrefix (counted counters (db.upcoming.toNat + 1))).Holds
      (db.store.load (counterEntry (db.upcoming.toNat + 1)).1
        (counterEntry (db.upcoming.toNat + 1)).2).entries :=
    hl.holds.put hcounters rfl rfl
  have hrows' : (l.set Schema.settings.keyPrefix (counted counters (db.upcoming.toNat + 1)))
      Schema.catalog.keyPrefix = some ⟨Schema.catalog, rows⟩ := by
    rw [Layout.set_of_ne _ _ (by decide), hrows]
  have hkey : Schema.catalog.HasKey [.ofText s.name] := rfl
  have hput := MemoryStore.put_insert ((hmoved.lookup_eq hrows' hkey).trans
    (congrArg (Option.map encodeTuple) hnew)) (schemaEntry s).2
  have hallot := allot_cases hcounter hfits (db.upcoming + 1) s
  rw [toNat_succ_of_ne hlast] at hallot
  rcases hallot with ⟨outcome, m, hcheck, hm, hrun⟩ | ⟨e, hcause, hrun⟩
  · -- the name has no row yet, so that the schema is stored if its entry fits
    obtain ⟨_, hcheck', hm⟩ := Except.map_eq_ok_iff.mp (hput.symm.trans hm)
    obtain ⟨-, rfl⟩ := Prod.mk.inj hm
    exact .of_ok hrun
      (h.entered hl hrows hplaced (hupcoming ▸ hfirst) hlast hname hsound rfl hcheck hcheck')
  · refine .of_error hrun ?_ h
    rcases hcause with hcheck | hm
    · exact Limits.isFatal_of_check ((MemoryStore.checkEntry_eq _ _ _ _).symm.trans hcheck)
    · have hcheck := Except.map_eq_error_iff.mp (hput.symm.trans hm)
      exact Limits.isFatal_of_check ((MemoryStore.checkEntry_eq _ _ _ _).symm.trans hcheck)

/-- **Creating a table.** -/
theorem Healthy.benign_addTable (h : db.Healthy) (s : Schema) :
    Benign (addTable s) db fun _ t => t.Healthy := by
  obtain ⟨l, hl⟩ := h.backed
  obtain ⟨rows, hrows⟩ := hl.catalog
  obtain ⟨previous, hprevious⟩ := h.consistent.counter
  have hread : readCounter db = .ok previous db := by
    have hrun := ok_of_outcome hprevious
    obtain ⟨hsame, -⟩ := readCounter_ok hrun
    rw [hrun, hsame]
  have hupcoming := upcoming_of_counter hprevious
  -- each check either refuses the schema or leaves a fact for the last step
  unfold addTable
  refine (reads_checkSchema s).benign_bind h fun _ hcheck => ?_
  refine .guard rfl h fun hreserved => .guard rfl h fun _ => ?_
  refine (reads_checkSchema s.fillPrimary).benign_bind h fun _ _ => ?_
  have hrow := getRow_name hl.holds hrows s.fillPrimary.name
  refine Reads.benign_bind (P := fun row => row = _) (.of_ok hrow rfl) h ?_
  rintro row rfl
  refine .guard rfl h fun hexists => ?_
  refine Reads.benign_bind (P := fun found => found = previous) (.of_ok hread rfl) h ?_
  rintro found rfl
  refine .guard rfl h fun hlast => ?_
  rw [← hupcoming] at hlast ⊢
  rw [Option.isSome_map, Bool.not_eq_true, Option.isSome_eq_false_iff,
    Option.isNone_iff_eq_none] at hexists
  refine h.benign_allot (s := { s.fillPrimary with keyPrefix := db.upcoming }) hl hrows hexists
    hread rfl hlast ?_ ?_
  · show Schema.builtIn? s.fillPrimary.name = none
    rw [s.fillPrimary_name]
    exact Schema.builtIn?_of_unreserved hreserved
  · exact (Schema.sound_of_check hcheck).fillPrimary.placed db.upcoming

end Database

end PagedTables
