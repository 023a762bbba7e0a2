/-
# Creating tables

A database keeps its registry of schemas through every call that does not write into its own
tables: a table that is created enters it with the definition that was given, and nothing else
changes it. From then on the schema is the same at hand and in the catalog, so that a fresh
database on the same store answers as the one that has created the tables.

* `Database.Advances` : how a call ends in a database with its catalog;
* `Database.addTable_cache` : the schemas at hand after a table is created;
* `TableCall.Proper` : the calls that do not write into the built-in tables;
* `TableCall.advances`, `DatabaseCall.advances` : every such call.
-/
import Mathlib
import PagedTables.Proofs.Tables.Reading

namespace PagedTables

open PagedTables.Action

/-! ## Schemas at hand -/

namespace Database

variable {κ : Type} {α : Type} {db : Database κ}

/-- The schemas at hand are the same. -/
def SameCache (db t : Database κ) : Prop :=
  t.cache = db.cache

instance : Std.Refl (SameCache (κ := κ)) :=
  ⟨fun _ => rfl⟩

instance : Trans (SameCache (κ := κ)) SameCache SameCache :=
  ⟨fun h h' => h'.trans h⟩

/-- An action on the store leaves the schemas at hand. -/
theorem sameCache_onStore (act : Action StoreError κ α) (db : Database κ) :
    Keeps SameCache (onStore act) db :=
  Keeps.part (T := fun _ _ => True) trivial fun _ _ => rfl

variable [Store κ]

/-- The schema of a new table is at hand once it is entered. -/
theorem enter_cache (previous : Option UInt32) (s : Schema) (db : Database κ) :
    (∃ t, enter previous s db = .ok () t ∧ t.cache = db.cache.insert s.name s) ∨
    ∃ e t, enter previous s db = .error e t ∧ t.cache = db.cache := by
  unfold enter
  have hset : Keeps SameCache (setRow Schema.catalog
      (textRecord [("name", Bytes.ofText s.name), ("def", s.toJson.compact)]) .insert) db :=
    keeps_setRow sameCache_onStore _ _ _
  cases hrun : setRow Schema.catalog
      (textRecord [("name", Bytes.ofText s.name), ("def", s.toJson.compact)]) .insert db with
  | ok outcome t =>
    rw [bind_ok (attempt_ok hrun)]
    exact .inl ⟨_, rfl, congrArg (·.insert s.name s) (hset.ok hrun)⟩
  | error e t =>
    rw [bind_ok (attempt_error hrun)]
    have hrestore : Keeps SameCache (restoreCounter previous) t :=
      keeps_restoreCounter sameCache_onStore _
    simp only
    cases hrun' : restoreCounter previous t with
    | ok _ u =>
      rw [bind_ok hrun']
      exact .inr ⟨_, _, rfl, (hrestore.ok hrun').trans (hset.error hrun)⟩
    | error e' u =>
      rw [bind_error hrun']
      exact .inr ⟨_, _, rfl, (hrestore.error hrun').trans (hset.error hrun)⟩

/-- After the counter has moved, the schema is entered with the old counter as its prefix. -/
theorem allot_cache (next : Nat) (s : Schema) (db : Database κ) :
    let act := setRow Schema.settings (counterRecord (UInt32.ofNat next + 1)) .upsert >>= fun _ =>
      enter (storedCounter next) (s.placed (UInt32.ofNat next))
    (∃ t, act db = .ok () t ∧
      t.cache = db.cache.insert s.name (s.placed (UInt32.ofNat next))) ∨
    ∃ e t, act db = .error e t ∧ t.cache = db.cache := by
  intro act
  have hset : Keeps SameCache (setRow Schema.settings
      (counterRecord (UInt32.ofNat next + 1)) .upsert) db := keeps_setRow sameCache_onStore _ _ _
  cases hrun : setRow Schema.settings (counterRecord (UInt32.ofNat next + 1)) .upsert db with
  | ok outcome t =>
    have hcache : t.cache = db.cache := hset.ok hrun
    have hact : act db = enter (storedCounter next) (s.placed (UInt32.ofNat next)) t :=
      bind_ok hrun
    rw [hact, ← hcache]
    exact enter_cache _ _ t
  | error e t => exact .inr ⟨e, t, bind_error hrun, hset.error hrun⟩

/-- A new table takes the prefix that the counter has. -/
theorem addTable_cache {l : Layout} {limits : Limits} {tables : Tables} {next : Nat}
    (hl : l.Describes limits (Store.contents db.store) db.cache tables next) (s : Schema) :
    (∃ t, addTable s db = .ok () t ∧
      t.cache = db.cache.insert s.name (s.fillPrimary.placed (UInt32.ofNat next))) ∨
    ∃ e t, addTable s db = .error e t ∧ t.cache = db.cache := by
  have hcheck : ∀ s, checkSchema s db = .ok () db ∨ ∃ e, checkSchema s db = .error e db := by
    intro s
    unfold checkSchema
    cases s.check with
    | ok _ => exact .inl rfl
    | error fault => exact .inr ⟨_, rfl⟩
  unfold addTable
  rcases hcheck s with hrun | ⟨e, hrun⟩
  · rw [bind_ok hrun]
    by_cases hreserved : s.name.startsWith "@" = true
    · simp only [if_pos hreserved]
      exact .inr ⟨_, _, rfl, rfl⟩
    · by_cases hpreset : s.keyPrefix ≠ 0
      · simp only [if_neg hreserved, if_pos hpreset]
        exact .inr ⟨_, _, rfl, rfl⟩
      · simp only [if_neg hreserved, if_neg hpreset]
        rcases hcheck s.fillPrimary with hrun | ⟨e, hrun⟩
        · rw [bind_ok hrun, bind_ok (getRow_catalog hl _)]
          split
          · exact .inr ⟨_, _, rfl, rfl⟩
          · rw [bind_ok (readCounter_eq hl), storedCounter_getD]
            have hallot := allot_cache next s.fillPrimary db
            rw [s.fillPrimary_name] at hallot
            split
            · exact .inr ⟨_, _, rfl, rfl⟩
            · exact hallot
        · rw [bind_error hrun]
          exact .inr ⟨_, _, rfl, rfl⟩
  · rw [bind_error hrun]
    exact .inr ⟨_, _, rfl, rfl⟩

/-! ## How calls end -/

/-- How a call ends in a database in use with its catalog. If it is answered, the new schemas are
registered, and each has taken a prefix. If it fails, nothing is registered; only a failure of the
store can end the use of the database or cost a prefix. -/
inductive Advances (Fails : StoreError → Prop) (schemas : List Schema) (next : Nat)
    (new : List Schema) : EStateM.Result DatabaseError (Database κ) α → Prop
  /-- The call is answered. -/
  | done {a : α} {t : Database κ} (hpoison : t.poison = none)
      (h : t.Registered (schemas ++ new) (next + new.length)) :
      Advances Fails schemas next new (.ok a t)
  /-- The call fails. -/
  | failed {e : DatabaseError} {t : Database κ} {next' : Nat} (h : t.Registered schemas next')
      (hkept : (∀ cause, ¬Fails cause) →
        e.isFatal = false ∧ t.poison = none ∧ next' = next) :
      Advances Fails schemas next new (.error e t)

section Advances

variable {Fails : StoreError → Prop} {schemas new : List Schema} {next next' : Nat}
variable {act : Action DatabaseError (Database κ) α} {limits : Limits} {tables tables' : Tables}
variable {answer : Except DatabaseError α} {t : Database κ}

/-- With the same schemas at hand, a database with tables has the same catalog. -/
theorem Registered.of_shows (h : db.Registered schemas next) (ht : t.Shows limits tables next')
    (hcache : t.cache = db.cache) : t.Registered schemas next' where
  cache_eq := hcache.trans h.cache_eq
  registers := {
    described := by
      obtain ⟨l, hl⟩ := ht
      rw [hcache, h.cache_eq] at hl
      obtain rfl := hl.limits_eq
      exact ⟨tables, l, hl⟩
    nodup := h.registers.nodup
    ascending := h.registers.ascending
    storable := h.registers.storable }

/-- The use of the database does not matter. -/
theorem Registered.of_contents (h : db.Registered schemas next)
    (hcontents : Store.contents t.store = Store.contents db.store) (hcache : t.cache = db.cache) :
    t.Registered schemas next where
  cache_eq := hcache.trans h.cache_eq
  registers := by
    rw [hcontents]
    exact h.registers

omit [Store κ] in
/-- An action that only reads keeps everything. -/
theorem Reads.keeps {P : α → Prop} {R : Database κ → Database κ → Prop} [Std.Refl R]
    (h : Reads act db P) : Keeps R act db := by
  rcases h with ⟨a, hrun, -⟩ | ⟨e, hrun, -⟩
  · exact .of_ok hrun (Std.Refl.refl db)
  · exact .of_error hrun (Std.Refl.refl db)

/-- A call that only reads registers nothing. -/
theorem Reads.advances {P : α → Prop} (h : Reads act db P) (hdb : db.Registered schemas next)
    (hpoison : db.poison = none) : Advances Fails schemas next [] (act db) := by
  rcases h with ⟨a, hrun, -⟩ | ⟨e, hrun, he⟩
  · rw [hrun]
    refine .done hpoison ?_
    rw [List.append_nil]
    exact hdb
  · rw [hrun]
    exact .failed hdb fun _ => ⟨he, hpoison, rfl⟩

/-- A call that leaves the schemas at hand registers nothing. -/
theorem Ends.advances (h : Ends Fails db limits tables tables' next answer (act db))
    (hcache : Keeps SameCache act db) (hdb : db.Registered schemas next)
    (hpoison : db.poison = none) : Advances Fails schemas next [] (act db) := by
  cases hrun : act db with
  | ok a t =>
    rw [hrun] at h
    obtain ⟨-, htpoison, hshows⟩ := h.of_ok
    refine .done (htpoison.trans hpoison) ?_
    rw [List.append_nil]
    exact hdb.of_shows hshows (hcache.ok hrun)
  | error e t =>
    rw [hrun] at h
    cases h with
    | refused hfatal hsame =>
      exact .failed (hdb.of_contents hsame.contents_eq hsame.cache_eq) fun _ =>
        ⟨hfatal, hsame.poison_eq.trans hpoison, rfl⟩
    | failed hcause hshows =>
      exact .failed (hdb.of_shows hshows (hcache.error hrun)) fun hnone => absurd hcause (hnone _)

theorem Advances.guarded (hpoison : db.poison = none)
    (h : Advances Fails schemas next new (act db)) :
    Advances Fails schemas next new (guarded act db) := by
  cases hrun : act db with
  | ok a t =>
    rw [hrun] at h
    rw [guarded_ok hpoison hrun]
    exact h
  | error e t =>
    rw [hrun] at h
    cases h with
    | failed h hkept =>
      cases hfatal : e.isFatal with
      | false =>
        rw [guarded_error hpoison hrun hfatal]
        exact .failed h hkept
      | true =>
        rw [guarded_fatal hpoison hrun hfatal]
        refine .failed (h.of_contents ?_ ?_) fun hnone => ?_
        · split <;> rfl
        · split <;> rfl
        · rw [(hkept hnone).1] at hfatal
          cases hfatal

theorem Advances.map {β : Type} (f : α → β) (h : Advances Fails schemas next new (act db)) :
    Advances Fails schemas next new ((f <$> act) db) := by
  cases hrun : act db with
  | ok a t =>
    rw [hrun] at h
    rw [map_ok f hrun]
    cases h with
    | done hpoison h => exact .done hpoison h
  | error e t =>
    rw [hrun] at h
    rw [map_error f hrun]
    cases h with
    | failed h hkept => exact .failed h hkept

end Advances

/-! ## Every call -/

section Calls

variable {Fails : StoreError → Prop} {schemas : List Schema} {next : Nat}

/-- A database with its catalog shows its tables. -/
theorem Registered.shows (h : db.Registered schemas next) :
    ∃ limits tables, db.Shows limits tables next := by
  obtain ⟨tables, l, hl⟩ := h.exists_describes
  exact ⟨_, tables, l, hl⟩

/-- **A new table** is registered with the next prefix. -/
theorem advances_addTable (hlawful : Store.Lawful κ Fails) (h : db.Registered schemas next)
    (hpoison : db.poison = none) {s : Schema} (hword : s.keyCount ≤ maxWord64) :
    Advances Fails schemas next [s.fillPrimary.placed (UInt32.ofNat next)] (addTable s db) := by
  obtain ⟨limits, tables, l, hl⟩ := h.shows
  have hends := addTable_ends hlawful ⟨l, hl⟩ s
  have hnext : (UInt32.ofNat next).toNat = next :=
    UInt32.toNat_ofNat_of_lt' (lt_size_of_le_maxWord32 hl.le_last)
  rcases addTable_cache hl s with ⟨t, hrun, hcache⟩ | ⟨e, t, hrun, hcache⟩
  · rw [hrun] at hends ⊢
    obtain ⟨haccept, htpoison, l', hl'⟩ := hends.of_ok
    refine .done (htpoison.trans hpoison) ?_
    have hnew : (Schema.byName schemas).lookup s.fillPrimary.name = none := by
      rw [s.fillPrimary_name, ← h.cache_eq, ← Option.isNone_iff_eq_none, ← Option.not_isSome,
        hl.known, Tables.lookup_of_accept haccept]
      rfl
    have hfirst : Schema.firstPrefix ≤ UInt32.ofNat next := by
      rw [UInt32.le_iff_toNat_le, hnext]
      exact hl.first_le
    have hcheck : s.check = .ok () := by
      unfold Tables.accept at haccept
      split at haccept
      · cases haccept
      · assumption
    rw [← s.fillPrimary_name] at hcache
    have hdescribed : ∃ (tables : Tables) (l : Layout), l.Describes
        (Store.contents t.store).limits (Store.contents t.store)
        ((Schema.byName schemas).insert s.fillPrimary.name
          (s.fillPrimary.placed (UInt32.ofNat next))) tables (next + 1) := by
      rw [← h.cache_eq, ← hcache, hl'.limits_eq]
      exact ⟨_, l', hl'⟩
    refine ⟨?_, h.registers.concat hdescribed hnew
      (Schema.storable_of_check hcheck hfirst hword) hnext⟩
    rw [hcache, h.cache_eq, Schema.byName_concat]
    rfl
  · rw [hrun] at hends ⊢
    generalize Tables.accept limits next tables s = answer at hends
    cases hends with
    | refused hfatal hsame =>
      exact .failed (h.of_contents hsame.contents_eq hsame.cache_eq) fun _ =>
        ⟨hfatal, hsame.poison_eq.trans hpoison, rfl⟩
    | failed hcause hshows =>
      exact .failed (h.of_shows hshows hcache) fun hnone => absurd hcause (hnone _)

/-- An action on the rows of a table leaves the schemas at hand. -/
theorem Registered.sameCache_resolve_bind (h : db.Registered schemas next) (name : String)
    {act : Schema → Action DatabaseError (Database κ) α}
    (hact : ∀ s t, Keeps SameCache (act s) t) : Keeps SameCache (resolve name >>= act) db :=
  (h.resolves name).keeps.bind fun s t _ => hact s t

/-- Writing a row registers nothing. -/
theorem advances_set (hlawful : Store.Lawful κ Fails) (h : db.Registered schemas next)
    (hpoison : db.poison = none) {name : String} (hname : Schema.builtIn? name = none)
    (r : Record) (mode : WriteMode) : Advances Fails schemas next [] (set name r mode db) := by
  obtain ⟨limits, tables, hshows⟩ := h.shows
  refine ((write_ends hlawful hshows hname r mode).advances ?_ h hpoison).guarded hpoison
  exact h.sameCache_resolve_bind name fun _ _ => keeps_setRow sameCache_onStore _ _ _

theorem advances_delete (hlawful : Store.Lawful κ Fails) (h : db.Registered schemas next)
    (hpoison : db.poison = none) {name : String} (hname : Schema.builtIn? name = none)
    (r : Record) : Advances Fails schemas next [] (delete name r db) := by
  obtain ⟨limits, tables, hshows⟩ := h.shows
  refine ((remove_ends hlawful hshows hname r).advances ?_ h hpoison).guarded hpoison
  exact h.sameCache_resolve_bind name fun _ _ => keeps_deleteRow sameCache_onStore _ _

theorem advances_flush (hfaithful : Store.Faithful κ Fails) (h : db.Registered schemas next)
    (hpoison : db.poison = none) : Advances Fails schemas next [] (flush db) := by
  refine Advances.guarded hpoison ?_
  have hobeys := onStore_obeys (hfaithful.flush db.store)
  generalize onStore Store.flush db = result at hobeys
  cases hobeys with
  | done hcontents hcache htpoison =>
    refine .done (htpoison.trans hpoison) ?_
    rw [List.append_nil]
    exact h.of_contents hcontents hcache
  | failed he hsame =>
    exact .failed (h.of_contents hsame.contents_eq hsame.cache_eq) fun hnone =>
      absurd he (hnone _)

end Calls

end Database

/-- The schemas of the tables that a call creates, if the next table takes a certain prefix. -/
def TableCall.enters (p : UInt32) : TableCall → List Schema
  | create s => [s.fillPrimary.placed p]
  | _ => []

/-- The call writes into no built-in table, and a new schema counts its key columns in a word. -/
def TableCall.Proper : TableCall → Prop
  | create s => s.keyCount ≤ maxWord64
  | get _ _ => True
  | call => Schema.builtIn? call.table = none

/-- The schemas of the tables that a call of a database creates. -/
def DatabaseCall.enters (p : UInt32) : DatabaseCall → List Schema
  | table call => call.enters p
  | _ => []

/-- A call on a table is proper; all other calls of a database only read, or make changes durable. -/
def DatabaseCall.Proper : DatabaseCall → Prop
  | table call => call.Proper
  | _ => True

section Calls

variable {κ : Type} [Store κ] {Fails : StoreError → Prop} {db : Database κ}
variable {schemas : List Schema} {next : Nat}

open Database

/-- **A call on a table** registers the table that it creates, and nothing else. -/
theorem TableCall.advances (hlawful : Store.Lawful κ Fails) (h : db.Registered schemas next)
    (hpoison : db.poison = none) {call : TableCall} (hcall : call.Proper) :
    Advances Fails schemas next (call.enters (UInt32.ofNat next)) (call.run db) := by
  cases call with
  | create s => exact ((advances_addTable hlawful h hpoison hcall).guarded hpoison).map _
  | get name r => exact (((h.resolves name).reads_get hpoison r).advances h hpoison).map _
  | set name r mode => exact (advances_set hlawful h hpoison hcall r mode).map _
  | insert name r => exact ((advances_set hlawful h hpoison hcall r .insert).map _).map _
  | update name r => exact ((advances_set hlawful h hpoison hcall r .update).map _).map _
  | upsert name r => exact ((advances_set hlawful h hpoison hcall r .upsert).map _).map _
  | delete name r => exact (advances_delete hlawful h hpoison hcall r).map _

/-- **Every call** of a database with its catalog. -/
theorem DatabaseCall.advances (hfaithful : Store.Faithful κ Fails)
    (h : db.Registered schemas next) (hpoison : db.poison = none) {call : DatabaseCall}
    (hcall : call.Proper) :
    Advances Fails schemas next (call.enters (UInt32.ofNat next)) (call.run db) := by
  cases call with
  | table call => exact (call.advances hfaithful.toLawful h hpoison hcall).map _
  | schemaOf name => exact (((h.resolves name).reads_schemaOf hpoison).advances h hpoison).map _
  | tableNames => exact (((h.resolves _).reads_tableNames hpoison).advances h hpoison).map _
  | scan name range => exact (((h.resolves name).reads_scan hpoison range).advances h hpoison).map _
  | scanTable name => exact (((h.resolves name).reads_scanTable hpoison).advances h hpoison).map _
  | flush => exact (advances_flush hfaithful h hpoison).map _
  | close => exact (advances_flush hfaithful h hpoison).map _

/-- A scan that a call opens is readable. -/
theorem DatabaseCall.readable_of_run (h : ∀ name, db.Resolves name) (hpoison : db.poison = none)
    {call : DatabaseCall} {reply : DatabaseReply} {t : Database κ} {s : Scan}
    (hrun : call.run db = .ok reply t) (hs : reply.scan? = some s) : s.Readable := by
  have hmap : ∀ {β : Type} {f : β → DatabaseReply} {act : Action DatabaseError (Database κ) β},
      (f <$> act) db = .ok reply t → (∀ b, (f b).scan? = none) → s.Readable := by
    intro β f act hrun hnone
    obtain ⟨b, -, rfl⟩ := exists_of_map_ok hrun
    rw [hnone] at hs
    cases hs
  cases call with
  | table call => exact hmap hrun fun _ => rfl
  | schemaOf name => exact hmap hrun fun _ => rfl
  | tableNames => exact hmap hrun fun _ => rfl
  | scan name range =>
    obtain ⟨s', hscan, rfl⟩ := exists_of_map_ok hrun
    obtain rfl := Option.some.inj hs
    exact ((h name).reads_scan hpoison range).holds hscan
  | scanTable name =>
    obtain ⟨s', hscan, rfl⟩ := exists_of_map_ok hrun
    obtain rfl := Option.some.inj hs
    exact ((h name).reads_scanTable hpoison).holds hscan
  | flush => exact hmap hrun fun _ => rfl
  | close => exact hmap hrun fun _ => rfl

end Calls

end PagedTables
