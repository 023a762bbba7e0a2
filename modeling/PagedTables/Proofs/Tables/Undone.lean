/-
# Tables that are not created

Creating a table moves the counter of prefixes on before the schema is stored. If the schema cannot
be stored, the counter is put back by writing the number that was read. That number has only one
encoding, and its row fitted into the store before, so that a store in memory ends with the entries
that it had, whatever these were.

* `Database.Atomic` : an action that does all or nothing;
* `Database.readCounter_ok` : the counter that is read is what is stored;
* `Database.allot_cases` : the last steps, from the move of the counter on;
* `Database.createTable_atomic` : creating a table.
-/
import PagedTables.Proofs.Tables.Calls
import PagedTables.Proofs.Tables.Poison

namespace PagedTables

open PagedTables.Action

namespace Database

/-! ## Rows in any store -/

section Store

variable {κ : Type} [Store κ] {db t : Database κ}

/-- **A row that is looked up** is the one that the entry under its key is decoded to. -/
theorem getRow_ok {s : Schema} {r : Record} {row : Option Record} {key : List Value}
    (hselect : r.select s s.keyColumns = .ok key) (h : getRow s r db = .ok row t) :
    t = db ∧
      ((row = none ∧ db.entries.lookup (encodeKey s.keyPrefix key) = none) ∨
        ∃ value values, db.entries.lookup (encodeKey s.keyPrefix key) = some value ∧
          Scan.decodeRow s (encodeKey s.keyPrefix key, value) = .ok values ∧
          row = some (Record.ofRow s values)) := by
  have hentry : Scan.entry? (Scan.start db.entries s .atLeast (encodeKey s.keyPrefix key) .atMost
      (encodeKey s.keyPrefix key)) =
        (db.entries.lookup (encodeKey s.keyPrefix key)).map fun value =>
          (encodeKey s.keyPrefix key, value) := Scan.entry?_point _
  unfold getRow at h
  rw [hselect, ofExcept_bind_ok, get_bind] at h
  simp only [Scan.isValid, hentry] at h
  cases hlookup : db.entries.lookup (encodeKey s.keyPrefix key) with
  | none =>
    rw [hlookup] at h
    cases h
    exact ⟨rfl, .inl ⟨rfl, rfl⟩⟩
  | some value =>
    rw [hlookup] at h hentry
    obtain ⟨record, u, hfetch, h⟩ := exists_of_bind_ok h
    cases h
    cases hrow : Scan.decodeRow s (encodeKey s.keyPrefix key, value) with
    | error error =>
      rw [fetch_undecodable hentry hrow db] at hfetch
      cases hfetch
    | ok values =>
      rw [fetch_eq hentry hrow db] at hfetch
      cases hfetch
      exact ⟨rfl, .inr ⟨value, values, rfl, hrow, rfl⟩⟩

omit [Store κ] in
/-- A number has one encoding as a counter. -/
theorem counterOf_ok {r : Record} {b : Bytes} {counter : UInt32} (hval : bytesIn r "val" = some b)
    (h : counterOf r = .ok counter) :
    Bytes.ofNatLE 4 counter.toNat = b ∧ ¬counter < Schema.firstPrefix := by
  unfold counterOf at h
  rw [hval] at h
  simp only at h
  split at h
  · cases h
  · next hlength =>
    split at h
    · cases h
    · next hfirst =>
      obtain rfl := Except.ok.inj h
      have hwidth : b.length = 4 := not_not.mp hlength
      have hlt := Bytes.toNatLE_lt b
      rw [hwidth] at hlt
      have hback := Bytes.ofNatLE_toNatLE b
      rw [hwidth] at hback
      rw [UInt32.toNat_ofNat_of_lt' hlt]
      exact ⟨hback, hfirst⟩

/-- **The counter that is read** is what is stored, byte for byte. -/
theorem readCounter_ok {previous : Option UInt32} (h : readCounter db = .ok previous t) :
    t = db ∧ Schema.firstPrefix ≤ previous.getD Schema.firstPrefix ∧
      db.entries.lookup (counterEntry 0).1 =
        previous.map fun counter => (counterEntry counter.toNat).2 := by
  obtain ⟨row, u, hget, h⟩ := exists_of_bind_ok h
  have hselect : (textRecord [("key", counterKey)]).select Schema.settings
      Schema.settings.keyColumns = .ok [.bytes counterKey] := rfl
  obtain ⟨rfl, ⟨rfl, hnone⟩ | ⟨value, values, hvalue, hrow, rfl⟩⟩ := getRow_ok hselect hget
  · cases h
    exact ⟨rfl, UInt32.le_refl _, hnone⟩
  · obtain ⟨keys, hkeys, hrow⟩ := Except.bind_eq_ok_iff.mp hrow
    obtain ⟨others, hothers, hvalues⟩ := Except.bind_eq_ok_iff.mp hrow
    obtain rfl := Except.ok.inj hvalues
    -- the types of the settings leave one key and one value
    obtain ⟨v, rfl, hv⟩ := List.map_eq_singleton_iff.mp (decodeKey_eq_ok_iff.mp hkeys).1
    obtain ⟨htypes, rfl⟩ := decodeTuple_eq_ok_iff.mp hothers
    obtain ⟨w, rfl, hw⟩ := List.map_eq_singleton_iff.mp htypes
    cases w with
    | int64 n => cases hw
    | bytes b =>
      have hval : bytesIn (Record.ofRow Schema.settings ([v] ++ [.bytes b])) "val" = some b := rfl
      simp only at h
      cases hcounter : counterOf (Record.ofRow Schema.settings ([v] ++ [.bytes b])) with
      | error e =>
        rw [hcounter] at h
        cases h
      | ok counter =>
        rw [hcounter] at h
        cases h
        obtain ⟨hback, hfirst⟩ := counterOf_ok hval hcounter
        refine ⟨rfl, UInt32.not_lt.mp hfirst, hvalue.trans ?_⟩
        rw [Option.map_some, counterEntry, storedRow, hback]

end Store

/-! ## Actions that do all or nothing -/

section Atomic

variable {κ : Type} {α β : Type} {db t : Database κ}

/-- The store and the schemas at hand are the same. -/
structure Untouched (db t : Database κ) : Prop where
  store_eq : t.store = db.store
  cache_eq : t.cache = db.cache

instance : Std.Refl (Untouched (κ := κ)) :=
  ⟨fun _ => ⟨rfl, rfl⟩⟩

instance : Trans (Untouched (κ := κ)) Untouched Untouched :=
  ⟨fun h h' => ⟨h'.store_eq.trans h.store_eq, h'.cache_eq.trans h.cache_eq⟩⟩

/-- The end of the use touches nothing else. -/
theorem Retires.untouched (h : db.Retires t) : db.Untouched t := by
  rw [h.rest_eq]
  exact ⟨rfl, rfl⟩

/-- If the action fails, nothing has been stored, and no schema has come to hand. -/
def Atomic (act : Action DatabaseError (Database κ) α) (db : Database κ) : Prop :=
  ∀ e t, act db = .error e t → db.Untouched t

namespace Atomic

variable {act : Action DatabaseError (Database κ) α}
variable {rest : α → Action DatabaseError (Database κ) β}

theorem fail (e : DatabaseError) : Atomic (throw e : Action _ _ α) db := by
  rintro _ _ ⟨⟩
  exact Std.Refl.refl db

/-- What comes before the last action must not do anything. -/
theorem bind (h : Keeps Untouched act db)
    (hrest : ∀ a t, act db = .ok a t → Atomic (rest a) t) : Atomic (act >>= rest) db := by
  intro e t hrun
  rcases cases_of_bind_error hrun with herror | ⟨a, u, hok, herror⟩
  · exact h.error herror
  · exact Trans.trans (h.ok hok) (hrest a u hok e t herror)

theorem guard {c : Prop} [Decidable c] {e : DatabaseError} {refusal : PUnit → Action _ _ α}
    (h : Atomic act db) : Atomic (if c then throw e >>= refusal else act) db := by
  split
  · exact .bind (Keeps.fail e) nofun
  · exact h

/-- The end of the use of a database changes nothing else. -/
theorem guarded (h : Atomic act db) : Atomic (Database.guarded act) db := by
  intro e t hrun
  cases hpoison : db.poison with
  | some reason =>
    rw [guarded_of_poison hpoison] at hrun
    cases hrun
    exact Std.Refl.refl db
  | none =>
    cases hact : act db with
    | ok a u =>
      rw [guarded_ok hpoison hact] at hrun
      cases hrun
    | error e' u =>
      have hu := h e' u hact
      cases hfatal : e'.isFatal with
      | false =>
        rw [guarded_error hpoison hact hfatal] at hrun
        cases hrun
        exact hu
      | true =>
        rw [guarded_fatal hpoison hact hfatal] at hrun
        cases hrun
        split
        · exact hu
        · exact ⟨hu.store_eq, hu.cache_eq⟩

end Atomic

/-! ## Creating a table -/

variable [Store κ]

omit [Store κ] in
theorem untouched_checkSchema (s : Schema) : Keeps Untouched (checkSchema s) db := by
  unfold checkSchema
  split
  · exact .answer _
  · exact .fail _

/-- Looking a row up touches nothing. -/
theorem untouched_getRow (s : Schema) (r : Record) : Keeps Untouched (getRow s r) db := by
  refine (Keeps.ofExcept _).bind fun values _ _ => .read ?_
  simp only
  split
  · exact ((retires_fetch _).mono fun _ => Retires.untouched).bind fun _ _ _ => .answer _
  · exact .answer _

theorem untouched_readCounter : Keeps Untouched readCounter db := by
  refine (untouched_getRow _ _).bind fun row _ _ => ?_
  cases row with
  | none => exact .answer _
  | some r => exact (Keeps.ofExcept (counterOf r)).bind fun _ _ _ => .answer _

end Atomic

section Memory

variable {db t : Database MemoryStore} {previous : Option UInt32}

/-- A store in memory fails only where it refuses, and then nothing has happened. -/
theorem Obeys.cases_memory {α : Type} {r : Except StoreError (α × MemoryStore)}
    {result : EStateM.Result DatabaseError (Database MemoryStore) α}
    (h : Obeys (fun _ => False) db r result) :
    (∃ a m, r = .ok (a, m) ∧ result = .ok a { db with store := m }) ∨
      ∃ e, r = .error e ∧ result = .error (.store e) db := by
  have hrest : ∀ {t : Database MemoryStore} {m : MemoryStore}, t.store = m →
      t.cache = db.cache → t.poison = db.poison → t = { db with store := m } := by
    rintro ⟨store, cache, poison⟩ m rfl rfl rfl
    rfl
  cases h with
  | done hcontents hcache hpoison =>
    exact .inl ⟨_, _, rfl, congrArg _ (hrest hcontents hcache hpoison)⟩
  | refused hsame =>
    exact .inr ⟨_, rfl, congrArg _ (hrest hsame.contents_eq hsame.cache_eq hsame.poison_eq)⟩
  | failed he => exact he.elim

/-- **After the counter has moved**, the schema is entered, or the counter is restored. -/
theorem enter_cases {n : Nat} {u : Database MemoryStore}
    (hget : db.store.get? (counterEntry n).1 =
      previous.map fun counter => (counterEntry counter.toNat).2)
    (hfits : ∀ counter ∈ previous,
      db.store.checkEntry (counterEntry n).1 (counterEntry counter.toNat).2 = .ok ())
    (hu : u = { db with store := db.store.load (counterEntry n).1 (counterEntry n).2 })
    (s : Schema) :
    (∃ outcome m, u.store.put (schemaEntry s).1 (schemaEntry s).2 .insert = .ok (outcome, m) ∧
      enter previous s u = .ok () { db with store := m, cache := db.cache.insert s.name s }) ∨
    ∃ e, u.store.put (schemaEntry s).1 (schemaEntry s).2 .insert = .error e ∧
      enter previous s u = .error (.store e) db := by
  have hrowOf : (Table.mk Schema.catalog ∅).rowOf
      (textRecord [("name", Bytes.ofText s.name), ("def", s.toJson.compact)]) =
        .ok ([.ofText s.name], schemaRow s) := rfl
  have hset := setRow_obeys u MemoryStore.lawful rfl hrowOf .insert
  unfold enter
  rcases hset.cases_memory with ⟨outcome, m, hput, hrun⟩ | ⟨e, hput, hrun⟩
  · rw [bind_ok (attempt_ok hrun)]
    subst hu
    exact .inl ⟨outcome, m, hput, rfl⟩
  · have hmoved : Store.contents u.store =
        db.store.load (counterEntry n).1 (counterEntry n).2 := congrArg Database.store hu
    obtain ⟨w, hrestore, hcache, hpoison, hstore⟩ :=
      restoreCounter_back MemoryStore.lawful hget hfits hmoved
    have hback : w = db := by
      obtain ⟨store, cache, poison⟩ := w
      subst hu
      obtain rfl : store = db.store := hstore.resolve_right fun h => h.1.elim fun _ => id
      obtain rfl : cache = db.cache := hcache
      obtain rfl : poison = db.poison := hpoison
      rfl
    rw [bind_ok (attempt_error hrun)]
    simp only
    rw [bind_ok hrestore, hback]
    exact .inr ⟨e, hput, rfl⟩

/-- **The counter moves**, and the schema is entered; otherwise nothing has happened. -/
theorem allot_cases (hget : db.store.get? (counterEntry 0).1 =
      previous.map fun counter => (counterEntry counter.toNat).2)
    (hfits : ∀ counter ∈ previous,
      db.store.checkEntry (counterEntry 0).1 (counterEntry counter.toNat).2 = .ok ())
    (counter : UInt32) (s : Schema) :
    let moved := db.store.load (counterEntry counter.toNat).1 (counterEntry counter.toNat).2
    let allot := setRow Schema.settings (counterRecord counter) .upsert >>= fun _ =>
      enter previous s
    (∃ outcome m,
      db.store.checkEntry (counterEntry counter.toNat).1 (counterEntry counter.toNat).2 = .ok () ∧
      moved.put (schemaEntry s).1 (schemaEntry s).2 .insert = .ok (outcome, m) ∧
      allot db = .ok () { db with store := m, cache := db.cache.insert s.name s }) ∨
    ∃ e, (db.store.checkEntry (counterEntry counter.toNat).1 (counterEntry counter.toNat).2 =
        .error e ∨ moved.put (schemaEntry s).1 (schemaEntry s).2 .insert = .error e) ∧
      allot db = .error (.store e) db := by
  intro moved allot
  have hrowOf : (Table.mk Schema.settings ∅).rowOf (counterRecord counter) =
      .ok ([.bytes counterKey], [.bytes (Bytes.ofNatLE 4 counter.toNat)]) := rfl
  obtain ⟨outcome, hput⟩ := db.store.put_upsert (counterEntry counter.toNat).1
    (counterEntry counter.toNat).2
  have hset : Obeys (fun _ => False) db
      ((db.store.checkEntry (counterEntry counter.toNat).1 (counterEntry counter.toNat).2).map
        fun _ => (outcome, moved))
      (setRow Schema.settings (counterRecord counter) .upsert db) := by
    rw [← hput]
    exact setRow_obeys db MemoryStore.lawful rfl hrowOf .upsert
  rcases hset.cases_memory with ⟨_, m, hcheck, hrun⟩ | ⟨e, hcheck, hrun⟩
  · obtain ⟨_, hfree, hmoved⟩ := Except.map_eq_ok_iff.mp hcheck
    obtain ⟨-, rfl⟩ := Prod.mk.inj hmoved
    have hallot : allot db = enter previous s { db with store := moved } := bind_ok hrun
    rw [hallot]
    rcases enter_cases (n := counter.toNat) hget hfits rfl s with
      ⟨outcome', m', hput', henter⟩ | ⟨e, hput', henter⟩
    · exact .inl ⟨outcome', m', hfree, hput', henter⟩
    · exact .inr ⟨e, .inr hput', henter⟩
  · exact .inr ⟨e, .inl (Except.map_eq_error_iff.mp hcheck), bind_error hrun⟩

/-- The counter is moved on and the schema enters the catalog, or nothing is stored. -/
theorem atomic_allot (hget : db.store.get? (counterEntry 0).1 =
      previous.map fun counter => (counterEntry counter.toNat).2)
    (hfits : ∀ counter ∈ previous,
      db.store.checkEntry (counterEntry 0).1 (counterEntry counter.toNat).2 = .ok ())
    (counter : UInt32) (s : Schema) :
    Atomic (setRow Schema.settings (counterRecord counter) .upsert >>= fun _ =>
      enter previous s) db := by
  intro e t h
  rcases allot_cases hget hfits counter s with ⟨_, _, -, -, hrun⟩ | ⟨e', -, hrun⟩
  · cases hrun.symm.trans h
  · cases hrun.symm.trans h
    exact Std.Refl.refl db

/-- What fits into the store can be stored again. -/
theorem checkEntry_of_stored (hfits : ∀ e ∈ db.store.entries.toList,
      e.1.length ≤ db.store.maxKeySize ∧ e.2.length ≤ db.store.maxValueSize) {key value : Bytes}
    (hget : db.store.get? key = some value) (hkey : key ≠ []) :
    db.store.checkEntry key value = .ok () := by
  have hentry := hfits (key, value) ((OrderedMap.mem_toList_iff _).mpr hget)
  exact MemoryStore.checkEntry_eq_ok_iff.mpr ⟨hkey, hentry⟩

/-- **Creating a table** either succeeds or stores nothing, if all entries are within the limits. -/
theorem atomic_addTable (hfits : ∀ e ∈ db.store.entries.toList,
      e.1.length ≤ db.store.maxKeySize ∧ e.2.length ≤ db.store.maxValueSize) (s : Schema) :
    Atomic (addTable s) db := by
  unfold addTable
  refine .bind (untouched_checkSchema _) fun _ u hu => .guard (.guard ?_)
  refine .bind (untouched_checkSchema _) fun _ v hv => ?_
  refine .bind (untouched_getRow _ _) fun row w hw => .guard ?_
  refine .bind untouched_readCounter fun previous x hx => .guard ?_
  -- nothing has happened so far
  have hstore : w.store = db.store :=
    ((untouched_getRow _ _).ok hw).store_eq.trans
      (((untouched_checkSchema _).ok hv).store_eq.trans ((untouched_checkSchema _).ok hu).store_eq)
  obtain ⟨rfl, -, hcounter⟩ := readCounter_ok hx
  refine atomic_allot hcounter ?_ _ _
  rintro counter rfl
  rw [← hstore] at hfits
  exact checkEntry_of_stored hfits hcounter nofun

/-- **Creating a table does all or nothing.** Whatever a store in memory holds, if only its entries
fit into it, and whatever the new schema is: if creating the table fails, the store has the same
entries as before, the row of the counter among them, and no schema has come to hand. -/
theorem createTable_atomic (hfits : ∀ e ∈ db.store.entries.toList,
      e.1.length ≤ db.store.maxKeySize ∧ e.2.length ≤ db.store.maxValueSize)
    {s : Schema} {e : DatabaseError} (h : createTable s db = .error e t) :
    t.store = db.store ∧ t.cache = db.cache := by
  obtain ⟨hstore, hcache⟩ := (atomic_addTable hfits s).guarded e t h
  exact ⟨hstore, hcache⟩

end Memory

/-- A store with a counter of prefixes, but without room for a schema. -/
def tightStore : MemoryStore :=
  (MemoryStore.mk ∅ 100 20).load (counterEntry 150).1 (counterEntry 150).2

/-- The counter is moved on and put back. -/
theorem createTable_atomic_of_tightStore :
    let db : Database MemoryStore := { store := tightStore }
    let s : Schema := { name := "t", columns := ["id"], types := [.int64] }
    ∃ e t, createTable s db = .error e t ∧ t.store = tightStore ∧ t.cache = db.cache := by
  intro db s
  have hfits : ∀ e ∈ db.store.entries.toList,
      e.1.length ≤ db.store.maxKeySize ∧ e.2.length ≤ db.store.maxValueSize := by
    decide +kernel
  have hfails : Action.fails (createTable s) db (fun _ => true) = true := by
    decide +kernel
  obtain ⟨e, t, hrun, -⟩ := exists_of_fails hfails
  exact ⟨e, t, hrun, createTable_atomic hfits hrun⟩

end Database

end PagedTables
