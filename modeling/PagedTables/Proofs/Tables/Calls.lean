/-
# Calls of a database

How a call ends in a database with certain tables: as the tables say, or because its store has
failed. A call that is refused leaves the contents of the store; one whose store has failed
leaves all rows, and at most a prefix is lost.

* `Database.Ends` : the ways in which a call can end;
* `Database.setRow_obeys`, `Database.deleteRow_obeys` : what an operation on a row does;
* `Database.addTable_ends` : creating a table;
* `TableCall.ends` : every call.
-/
import Mathlib
import PagedTables.Proofs.Store.Lawful
import PagedTables.Proofs.Tables.Catalog

namespace PagedTables

/-! ## Errors of callers -/

namespace Record

variable {s : Schema} {r : Record} {e : DatabaseError}

/-- A value of the wrong type does not end the use of a database. -/
theorem isFatal_of_checkType {column : String} {type : ColumnType} {v : Value}
    (h : checkType column type v = .error e) : e.isFatal = false := by
  unfold checkType at h
  split at h
  · cases h
  · cases h
    rfl

theorem isFatal_of_requireFirst {n : Nat} {found : List (String × Option Value)}
    (h : requireFirst n found = .error e) : e.isFatal = false := by
  induction found generalizing n with
  | nil => cases h
  | cons slot found ih =>
    obtain ⟨column, value⟩ := slot
    cases n with
    | zero =>
      cases value with
      | none => exact ih h
      | some v =>
        cases h
        rfl
    | succ n =>
      cases value with
      | none =>
        cases h
        rfl
      | some v => exact ih (Except.map_eq_error_iff.mp h)

/-- A record that does not fit is no reason to stop using a database. -/
theorem isFatal_of_exactly {n : Nat} (h : r.exactly s n = .error e) : e.isFatal = false := by
  unfold exactly arrange at h
  rcases Except.bind_eq_error_iff.mp h with h | ⟨slots, -, h⟩
  · obtain ⟨⟨column, type⟩, -, hslot⟩ := Except.exists_error_of_mapM h
    simp only at hslot
    split at hslot
    · cases hslot
    · exact isFatal_of_checkType (Except.map_eq_error_iff.mp hslot)
  · exact isFatal_of_requireFirst h

theorem isFatal_of_select {columns : List String} (h : r.select s columns = .error e) :
    e.isFatal = false := by
  unfold select at h
  obtain ⟨column, -, hcolumn⟩ := Except.exists_error_of_mapM h
  split at hcolumn
  · cases hcolumn
    rfl
  · split at hcolumn
    · cases hcolumn
      rfl
    · exact isFatal_of_checkType hcolumn

end Record

theorem Limits.isFatal_of_check {limits : Limits} {key others : List Value} {e : StoreError}
    (h : limits.check key others = .error e) : (DatabaseError.store e).isFatal = false := by
  unfold Limits.check at h
  split at h
  · cases h
    rfl
  · split at h
    · cases h
      rfl
    · cases h

namespace Database

variable {κ α : Type} [Store κ]

/-! ## Operations of the store -/

/-- The same contents, schemas at hand, and state of use. -/
structure Same (db t : Database κ) : Prop where
  contents_eq : Store.contents t.store = Store.contents db.store
  cache_eq : t.cache = db.cache
  poison_eq : t.poison = db.poison

theorem Same.refl (db : Database κ) : Same db db :=
  ⟨rfl, rfl, rfl⟩

/-- Ending the use of a database changes nothing that it shows. -/
theorem shows_poisoned {db : Database κ} {limits : Limits} {tables : Tables} {next : Nat}
    (h : db.Shows limits tables next) (reason : String) :
    Shows (if db.poison.isSome && !false then db else { db with poison := some reason })
      limits tables next := by
  split <;> exact h

/-- A database that is the same shows the same tables. -/
theorem Same.shows {db t : Database κ} {limits : Limits} {tables : Tables} {next : Nat}
    (h : Same db t) (hdb : db.Shows limits tables next) : t.Shows limits tables next := by
  unfold Shows
  rw [h.contents_eq, h.cache_eq]
  exact hdb

/-- How an operation of the store ends in a database. -/
inductive Obeys (Fails : StoreError → Prop) (db : Database κ) :
    Except StoreError (α × MemoryStore) → EStateM.Result DatabaseError (Database κ) α → Prop
  /-- The operation does what it does in memory. -/
  | done {a : α} {m : MemoryStore} {t : Database κ} (hcontents : Store.contents t.store = m)
      (hcache : t.cache = db.cache) (hpoison : t.poison = db.poison) :
      Obeys Fails db (.ok (a, m)) (.ok a t)
  /-- The operation is refused as it is in memory. -/
  | refused {e : StoreError} {t : Database κ} (hsame : Same db t) :
      Obeys Fails db (.error e) (.error (.store e) t)
  /-- The store fails. -/
  | failed {r : Except StoreError (α × MemoryStore)} {e : StoreError} {t : Database κ}
      (he : Fails e) (hsame : Same db t) : Obeys Fails db r (.error (.store e) t)

variable {Fails : StoreError → Prop} {db : Database κ} {limits : Limits} {tables : Tables}
variable {next : Nat} {l : Layout} {p : UInt32} {t : Table} {r : Record}
variable {key others : List Value} {e : DatabaseError}

/-- A database passes on what its store does. -/
theorem onStore_obeys {act : Action StoreError κ α} {r : Except StoreError (α × MemoryStore)}
    (h : Store.Obeys Fails db.store r (act db.store)) : Obeys Fails db r (onStore act db) := by
  unfold onStore Action.within
  cases hrun : act db.store with
  | ok a s =>
    rw [hrun] at h
    cases h with
    | done hcontents => exact .done hcontents rfl rfl
  | error e s =>
    rw [hrun] at h
    cases h with
    | refused hcontents => exact .refused ⟨hcontents, rfl, rfl⟩
    | failed he hcontents => exact .failed he ⟨hcontents, rfl, rfl⟩

/-! ## Operations on rows -/

/-- A record that is no row is not stored. -/
theorem setRow_refused (h : t.rowOf r = .error e) (mode : WriteMode) :
    setRow t.schema r mode db = .error e db := by
  unfold Table.rowOf at h
  unfold setRow
  cases hvalues : r.exactly t.schema t.schema.columns.length with
  | error e' =>
    rw [hvalues] at h
    obtain rfl : e' = e := by simpa [Except.map] using h
    rfl
  | ok values =>
    rw [hvalues] at h
    cases h

variable (db) in
/-- **Writing a row** does in the store what it does in memory. -/
theorem setRow_obeys (hlawful : Store.Lawful κ Fails) (hplaced : t.schema.keyPrefix = p)
    (h : t.rowOf r = .ok (key, others)) (mode : WriteMode) :
    Obeys Fails db ((Store.contents db.store).put (encodeKey p key) (encodeTuple others) mode)
      (setRow t.schema r mode db) := by
  obtain ⟨values, hvalues, hsplit⟩ := Except.map_eq_ok_iff.mp h
  obtain ⟨rfl, rfl⟩ := Prod.mk.inj hsplit
  unfold setRow
  rw [hvalues, Action.ofExcept_bind_ok, hplaced]
  exact onStore_obeys (hlawful.update ..)

/-- A record without a key removes nothing. -/
theorem deleteRow_refused (h : t.keyOf r = .error e) :
    deleteRow t.schema r db = .error e db := by
  unfold Table.keyOf at h
  unfold deleteRow rowKey
  rw [h]
  rfl

variable (db) in
/-- **Removing a row** does in the store what it does in memory. -/
theorem deleteRow_obeys (hlawful : Store.Lawful κ Fails) (hplaced : t.schema.keyPrefix = p)
    (h : t.keyOf r = .ok key) :
    Obeys Fails db (.ok (((Store.contents db.store).get? (encodeKey p key)).isSome,
      (Store.contents db.store).erase (encodeKey p key))) (deleteRow t.schema r db) := by
  unfold Table.keyOf at h
  unfold deleteRow rowKey
  rw [h, ← hplaced]
  exact onStore_obeys (hlawful.delete ..)

/-! ## Guarded actions -/

section Guarded

omit [Store κ]

variable {act : Action DatabaseError (Database κ) α} {t : Database κ}

/-- A database that is out of use refuses everything. -/
theorem guarded_of_poison {reason : String} (h : db.poison = some reason) :
    guarded act db = .error (.poisoned reason) db := by
  unfold guarded
  rw [Action.get_bind, h]
  rfl

/-- A guarded call that succeeds answers what it answers without the guard. -/
theorem guarded_ok {a : α} (hpoison : db.poison = none) (h : act db = .ok a t) :
    guarded act db = .ok a t := by
  unfold guarded
  rw [Action.get_bind, hpoison]
  exact Action.bind_ok (Action.attempt_ok h)

/-- Errors of callers leave a database in use. -/
theorem guarded_error (hpoison : db.poison = none) (h : act db = .error e t)
    (hfatal : e.isFatal = false) : guarded act db = .error e t := by
  unfold guarded
  rw [Action.get_bind, hpoison]
  simp only
  rw [Action.bind_ok (Action.attempt_error h)]
  simp only [hfatal]
  rfl

/-- Fatal errors end the use of a database, and do nothing else. -/
theorem guarded_fatal (hpoison : db.poison = none) (h : act db = .error e t)
    (hfatal : e.isFatal = true) : guarded act db =
      .error e (if t.poison.isSome && !false then t else { t with poison := some e.message }) := by
  unfold guarded
  rw [Action.get_bind, hpoison]
  simp only
  rw [Action.bind_ok (Action.attempt_error h)]
  simp only [hfatal]
  rfl

/-- What a database in use answers its action has answered. -/
theorem ok_of_guarded {a : α} (h : guarded act db = .ok a t) : act db = .ok a t := by
  cases hpoison : db.poison with
  | some reason =>
    rw [guarded_of_poison hpoison] at h
    cases h
  | none =>
    cases hrun : act db with
    | ok b u => exact (guarded_ok hpoison hrun).symm.trans h
    | error e u =>
      cases hfatal : e.isFatal with
      | false => cases (guarded_error hpoison hrun hfatal).symm.trans h
      | true => cases (guarded_fatal hpoison hrun hfatal).symm.trans h

end Guarded

/-! ## Ways to end -/

/-- How a call of a database with certain tables ends, given the answer that the tables have for
it, and the tables and the next prefix once it is answered. -/
inductive Ends (Fails : StoreError → Prop) (db : Database κ) (limits : Limits)
    (tables tables' : Tables) (next' : Nat) :
    Except DatabaseError α → EStateM.Result DatabaseError (Database κ) α → Prop
  /-- The call is answered. -/
  | done {a : α} {t : Database κ} (hpoison : t.poison = db.poison)
      (hshows : t.Shows limits tables' next') :
      Ends Fails db limits tables tables' next' (.ok a) (.ok a t)
  /-- The call is refused. -/
  | refused {e : DatabaseError} {t : Database κ} (hfatal : e.isFatal = false)
      (hsame : Same db t) : Ends Fails db limits tables tables' next' (.error e) (.error e t)
  /-- The store has failed. -/
  | failed {answer : Except DatabaseError α} {cause : StoreError} {e : DatabaseError}
      {t : Database κ} {next : Nat} (hcause : Fails cause)
      (hshows : t.Shows limits tables next) :
      Ends Fails db limits tables tables' next' answer (.error e t)

variable {tables' : Tables} {next' : Nat} {answer : Except DatabaseError α}

/-- A call that is answered has the answer of the tables. -/
theorem Ends.of_ok {a : α} {t : Database κ}
    (h : Ends Fails db limits tables tables' next' answer (.ok a t)) :
    answer = .ok a ∧ t.poison = db.poison ∧ t.Shows limits tables' next' := by
  cases h with
  | done hpoison hshows => exact ⟨rfl, hpoison, hshows⟩

/-- A call that fails is refused by the tables, or its store has failed. -/
theorem Ends.of_error {t : Database κ}
    (h : Ends Fails db limits tables tables' next' answer (.error e t)) :
    answer = .error e ∧ Same db t ∨ (∃ cause, Fails cause) ∧ ∃ n, t.Shows limits tables n := by
  cases h with
  | refused hfatal hsame => exact .inl ⟨rfl, hsame⟩
  | failed hcause hshows => exact .inr ⟨⟨_, hcause⟩, _, hshows⟩

/-- A call on a store that never fails is answered from the tables. -/
theorem Ends.outcome_eq {act : Action DatabaseError (Database κ) α}
    (h : Ends (fun _ => False) db limits tables tables' next' answer (act db)) :
    (act.outcome db).1 = answer ∧
      ((∃ a, answer = .ok a ∧ (act.outcome db).2.poison = db.poison ∧
        (act.outcome db).2.Shows limits tables' next') ∨
      ∃ e, answer = .error e ∧ Same db (act.outcome db).2) := by
  unfold Action.outcome
  cases hrun : act db with
  | ok a t =>
    rw [hrun] at h
    obtain ⟨hanswer, hpoison, hshows⟩ := h.of_ok
    exact ⟨hanswer.symm, .inl ⟨a, hanswer, hpoison, hshows⟩⟩
  | error e t =>
    rw [hrun] at h
    rcases h.of_error with ⟨hanswer, hsame⟩ | ⟨⟨_, hcause⟩, -⟩
    · exact ⟨hanswer.symm, .inr ⟨e, hanswer, hsame⟩⟩
    · cases hcause

/-- A database in use is still in use after a call that is answered or refused. -/
theorem Ends.guarded {act : Action DatabaseError (Database κ) α} (hpoison : db.poison = none)
    (h : Ends Fails db limits tables tables' next' answer (act db)) :
    Ends Fails db limits tables tables' next' answer (guarded act db) := by
  cases hrun : act db with
  | ok a t =>
    rw [hrun] at h
    rw [guarded_ok hpoison hrun]
    exact h
  | error e t =>
    rw [hrun] at h
    cases h with
    | refused hfatal hsame =>
      rw [guarded_error hpoison hrun hfatal]
      exact .refused hfatal hsame
    | failed hcause hshows =>
      cases hfatal : e.isFatal with
      | false =>
        rw [guarded_error hpoison hrun hfatal]
        exact .failed hcause hshows
      | true =>
        rw [guarded_fatal hpoison hrun hfatal]
        exact .failed hcause (shows_poisoned hshows e.message)

/-- What a call answers may be put in other words. -/
theorem Ends.map {β : Type} {act : Action DatabaseError (Database κ) α} {f : α → β}
    (h : Ends Fails db limits tables tables' next' answer (act db)) :
    Ends Fails db limits tables tables' next' (answer.map f) ((f <$> act) db) := by
  show Ends Fails db limits tables tables' next' (answer.map f) (EStateM.map f act db)
  unfold EStateM.map
  cases hrun : act db with
  | ok a t =>
    rw [hrun] at h
    cases h with
    | done hpoison hshows => exact .done hpoison hshows
  | error e t =>
    rw [hrun] at h
    cases h with
    | refused hfatal hsame => exact .refused hfatal hsame
    | failed hcause hshows => exact .failed hcause hshows

/-- An operation of the store ends a call. -/
theorem Obeys.ends {r : Except StoreError (α × MemoryStore)}
    {result : EStateM.Result DatabaseError (Database κ) α} (h : Obeys Fails db r result)
    (hanswer : answer = (r.map Prod.fst).mapError .store) (hdb : db.Shows limits tables next)
    (hrefused : ∀ e, r = .error e → (DatabaseError.store e).isFatal = false)
    (hdone : ∀ a m (t : Database κ), r = .ok (a, m) → Store.contents t.store = m →
      t.cache = db.cache → t.Shows limits tables' next') :
    Ends Fails db limits tables tables' next' answer result := by
  subst hanswer
  cases h with
  | done hcontents hcache hpoison => exact .done hpoison (hdone _ _ _ rfl hcontents hcache)
  | refused hsame => exact .refused (hrefused _ rfl) hsame
  | failed he hsame => exact .failed he (hsame.shows hdb)

/-! ## Rows of callers -/

section Rows

variable {name : String}

/-- A call on a table: the table is found under its name, in the store under its prefix. -/
theorem ends_of_resolve {reply : Table → Except DatabaseError α}
    {act : Schema → Action DatabaseError (Database κ) α} (h : db.Shows limits tables next)
    (hname : Schema.builtIn? name = none)
    (hact : ∀ (l : Layout) (p : UInt32) (t : Table),
      l.Describes limits (Store.contents db.store) db.cache tables next →
      tables.lookup name = some t → Schema.firstPrefix.toNat ≤ p.toNat →
      db.cache.lookup name = some (t.schema.placed p) → l p = some (t.placed p) →
      Ends Fails db limits tables tables' next' (reply t) (act (t.schema.placed p) db)) :
    Ends Fails db limits tables tables' next' (tables.find name >>= reply)
      ((resolve name >>= act) db) := by
  obtain ⟨l, hl⟩ := h
  unfold Tables.find
  cases ht : tables.lookup name with
  | none =>
    rw [Action.bind_error (resolve_of_none hl hname ht)]
    exact .refused rfl (Same.refl db)
  | some t =>
    obtain ⟨p, hfirst, hcache, hp⟩ := hl.placed ht
    rw [Action.bind_ok (resolve_of_some hname hcache), Action.except_ok_bind]
    exact hact l p t hl ht hfirst hcache hp

/-- **Looking a row up.** -/
theorem fetch_ends (h : db.Shows limits tables next) (hname : Schema.builtIn? name = none)
    (r : Record) :
    Ends Fails db limits tables tables next (tables.fetch name r)
      ((resolve name >>= fun s => getRow s r) db) := by
  refine ends_of_resolve h hname ?_
  intro l p t hl ht hfirst hcache hp
  have hget : getRow (t.schema.placed p) r db = Action.ofExcept (t.fetch r) db :=
    getRow_eq hl.holds hp r
  rw [hget]
  cases hfetch : t.fetch r with
  | ok found => exact .done rfl ⟨l, hl⟩
  | error e =>
    refine .refused ?_ (Same.refl db)
    exact Record.isFatal_of_select (Except.map_eq_error_iff.mp hfetch)

/-- **Writing a row.** -/
theorem write_ends (hlawful : Store.Lawful κ Fails) (h : db.Shows limits tables next)
    (hname : Schema.builtIn? name = none) (r : Record) (mode : WriteMode) :
    Ends Fails db limits tables (tables.change name (·.write r mode)) next
      (tables.outcome limits name r mode)
      ((resolve name >>= fun s => setRow s r mode) db) := by
  refine ends_of_resolve h hname ?_
  intro l p t hl ht hfirst hcache hp
  unfold Table.outcome Tables.change
  rw [ht]
  cases hrow : t.rowOf r with
  | error e =>
    have hset : setRow (t.schema.placed p) r mode db = .error e db :=
      setRow_refused (t := t.placed p) hrow mode
    rw [hset]
    exact .refused (Record.isFatal_of_exactly (Except.map_eq_error_iff.mp hrow)) (Same.refl db)
  | ok row =>
    obtain ⟨key, others⟩ := row
    have hset : Obeys Fails db _ (setRow (t.schema.placed p) r mode db) :=
      setRow_obeys (t := t.placed p) (p := p) db hlawful rfl hrow mode
    obtain ⟨hkey, hothers⟩ :=
      Table.typed_of_rowOf (t := t.placed p) (hl.holds.sound hp).schema hrow
    have hcheck := (Store.contents db.store).checkEntry_eq p key others
    have hrows : (t.placed p).rows = t.rows := rfl
    rw [hl.holds.put_eq hp hkey hothers, hl.limits_eq, hrows] at hset
    rw [hl.limits_eq] at hcheck
    simp only [Action.except_ok_bind, Table.write, hrow]
    refine hset.ends ?_ h ?_ ?_
    · cases limits.check key others <;> rfl
    · intro e he
      exact Limits.isFatal_of_check (Except.map_eq_error_iff.mp he)
    · intro o m db' hdone hcontents hcache'
      obtain ⟨_, hlimits, heq⟩ := Except.map_eq_ok_iff.mp hdone
      obtain ⟨rfl, rfl⟩ := Prod.mk.inj heq
      split at hcontents
      · next hupdated =>
        rw [if_pos hupdated]
        refine ⟨l.set p ((t.put key others).placed p), ?_⟩
        rw [hcontents, hcache']
        exact hl.changeRows ht hfirst hcache hp rfl rfl (hl.fits.load (hcheck.trans hlimits))
          (hl.holds.put hp hkey hothers)
      · next hupdated =>
        rw [if_neg hupdated, OrderedMap.insert_of_lookup ht]
        refine ⟨l, ?_⟩
        rw [hcontents, hcache']
        exact hl

/-- **Removing a row.** -/
theorem remove_ends (hlawful : Store.Lawful κ Fails) (h : db.Shows limits tables next)
    (hname : Schema.builtIn? name = none) (r : Record) :
    Ends Fails db limits tables (tables.change name (·.remove r)) next
      (tables.has name r)
      ((resolve name >>= fun s => deleteRow s r) db) := by
  refine ends_of_resolve h hname ?_
  intro l p t hl ht hfirst hcache hp
  unfold Tables.change Table.has
  rw [ht]
  cases hkeyOf : t.keyOf r with
  | error e =>
    have hdelete : deleteRow (t.schema.placed p) r db = .error e db :=
      deleteRow_refused (t := t.placed p) hkeyOf
    rw [hdelete]
    exact .refused (Record.isFatal_of_exactly hkeyOf) (Same.refl db)
  | ok key =>
    have hdelete : Obeys Fails db _ (deleteRow (t.schema.placed p) r db) :=
      deleteRow_obeys (t := t.placed p) (p := p) db hlawful rfl hkeyOf
    have hkey := Table.hasKey_of_keyOf (t := t.placed p) (hl.holds.sound hp).schema hkeyOf
    rw [hl.holds.get?_isSome hp hkey] at hdelete
    simp only [Table.remove, hkeyOf]
    refine hdelete.ends rfl h ?_ ?_
    · intro e he
      cases he
    · intro b m db' hdone hcontents hcache'
      obtain ⟨-, rfl⟩ := Prod.mk.inj (Except.ok.inj hdone)
      refine ⟨l.set p ((t.erase key).placed p), ?_⟩
      rw [hcontents, hcache']
      exact hl.changeRows ht hfirst hcache hp rfl rfl (hl.fits.erase _) (hl.holds.erase hp hkey)

end Rows

/-! ## New tables -/

section NewTables

variable {m : MemoryStore} {s : Schema}

/-- What the settings have in the store as the counter. -/
theorem get?_counter {cache : OrderedMap String Schema}
    (h : l.Describes limits m cache tables next) (n : Nat) :
    m.get? (counterEntry n).1 = (counterRow next).map encodeTuple := by
  obtain ⟨rows, hrows, hcounter⟩ := h.settings
  have hkey : Schema.settings.HasKey [.bytes counterKey] := rfl
  have hlookup := h.holds.lookup_eq hrows hkey
  rw [hcounter] at hlookup
  exact hlookup

/-- What the counter is as a row of the settings. -/
theorem rowOf_counterRecord (rows : Rows) {n : Nat} (hn : n ≤ maxWord32) :
    (Table.mk Schema.settings rows).rowOf (counterRecord (UInt32.ofNat n)) =
      .ok ([.bytes counterKey], [.bytes (Bytes.ofNatLE 4 n)]) := by
  have hrow : (Table.mk Schema.settings rows).rowOf (counterRecord (UInt32.ofNat n)) =
      .ok ([.bytes counterKey], [.bytes (Bytes.ofNatLE 4 (UInt32.ofNat n).toNat)]) := rfl
  rw [hrow, UInt32.toNat_ofNat_of_lt' (lt_size_of_le_maxWord32 hn)]

/-- Restoring the counter runs one operation on the settings, and cannot fail itself. -/
theorem restoreCounter_eq (previous : Option UInt32) (db : Database κ) :
    restoreCounter previous db = .ok () (match previous with
      | some counter =>
        (Action.outcome (setRow Schema.settings (counterRecord counter) .upsert) db).2
      | none =>
        (Action.outcome (deleteRow Schema.settings (textRecord [("key", counterKey)])) db).2) := by
  unfold restoreCounter Action.outcome
  cases previous with
  | none =>
    cases hrun : deleteRow Schema.settings (textRecord [("key", counterKey)]) db with
    | ok b t => exact Action.bind_ok (Action.attempt_ok (Action.bind_ok hrun))
    | error e t => exact Action.bind_ok (Action.attempt_error (Action.bind_error hrun))
  | some counter =>
    cases hrun : setRow Schema.settings (counterRecord counter) .upsert db with
    | ok o t =>
      simp only [hrun]
      exact Action.bind_ok (Action.attempt_ok (Action.bind_ok hrun))
    | error e t =>
      simp only [hrun]
      exact Action.bind_ok (Action.attempt_error (Action.bind_error hrun))

/-- The state after an operation that is not refused. -/
theorem Obeys.outcome {act : Action DatabaseError (Database κ) α} {a : α}
    (h : Obeys Fails db (.ok (a, m)) (act db)) :
    (act.outcome db).2.cache = db.cache ∧ (act.outcome db).2.poison = db.poison ∧
      (Store.contents (act.outcome db).2.store = m ∨ (∃ cause, Fails cause) ∧
        Store.contents (act.outcome db).2.store = Store.contents db.store) := by
  unfold Action.outcome
  cases hrun : act db with
  | ok a t =>
    rw [hrun] at h
    cases h with
    | done hcontents hcache hpoison => exact ⟨hcache, hpoison, .inl hcontents⟩
  | error e t =>
    rw [hrun] at h
    cases h with
    | failed he hsame =>
      exact ⟨hsame.cache_eq, hsame.poison_eq, .inr ⟨⟨_, he⟩, hsame.contents_eq⟩⟩

/-- An operation that is refused exactly if a check fails. -/
theorem Obeys.of_check {check : Except StoreError Unit} {a : α}
    {result : EStateM.Result DatabaseError (Database κ) α}
    (h : Obeys Fails db (check.map fun _ => (a, m)) result) :
    (∃ t, result = .ok a t ∧ check = .ok () ∧ Store.contents t.store = m ∧
      t.cache = db.cache ∧ t.poison = db.poison) ∨
    ∃ e t, result = .error (.store e) t ∧ (check = .error e ∨ Fails e) ∧ Same db t := by
  cases check with
  | ok _ =>
    cases h with
    | done hcontents hcache hpoison =>
      exact .inl ⟨_, rfl, rfl, hcontents, hcache, hpoison⟩
    | failed he hsame => exact .inr ⟨_, _, rfl, .inr he, hsame⟩
  | error e =>
    cases h with
    | refused hsame => exact .inr ⟨_, _, rfl, .inl rfl, hsame⟩
    | failed he hsame => exact .inr ⟨_, _, rfl, .inr he, hsame⟩

/-- **Restoring the counter** puts back what was stored under its key, unless the store fails. -/
theorem restoreCounter_back (hlawful : Store.Lawful κ Fails) {previous : Option UInt32} {n : Nat}
    (hget : m.get? (counterEntry n).1 = previous.map fun counter => (counterEntry counter.toNat).2)
    (hfits : ∀ counter ∈ previous,
      m.checkEntry (counterEntry n).1 (counterEntry counter.toNat).2 = .ok ())
    (hdb : Store.contents db.store = m.load (counterEntry n).1 (counterEntry n).2) :
    ∃ t, restoreCounter previous db = .ok () t ∧ t.cache = db.cache ∧
      t.poison = db.poison ∧ (Store.contents t.store = m ∨ (∃ cause, Fails cause) ∧
        Store.contents t.store = Store.contents db.store) := by
  refine ⟨_, restoreCounter_eq previous db, ?_⟩
  have hrestore := m.restore_load (counterEntry n).1 (counterEntry n).2
  rw [hget, ← hdb] at hrestore
  cases previous with
  | none =>
    have hkeyOf : (Table.mk Schema.settings ∅).keyOf (textRecord [("key", counterKey)]) =
        .ok [.bytes counterKey] := rfl
    have hdelete := deleteRow_obeys db hlawful rfl hkeyOf
    have herase : (Store.contents db.store).erase
        (encodeKey (Table.mk Schema.settings ∅).schema.keyPrefix [.bytes counterKey]) = m :=
      hrestore
    rw [herase] at hdelete
    exact hdelete.outcome
  | some counter =>
    have hrowOf : (Table.mk Schema.settings ∅).rowOf (counterRecord counter) =
        .ok ([.bytes counterKey], [.bytes (Bytes.ofNatLE 4 counter.toNat)]) := rfl
    have hset := setRow_obeys db hlawful rfl hrowOf .upsert
    obtain ⟨outcome, hput⟩ := (Store.contents db.store).put_upsert
      (encodeKey (Table.mk Schema.settings ∅).schema.keyPrefix [.bytes counterKey])
      (encodeTuple [.bytes (Bytes.ofNatLE 4 counter.toNat)])
    have hcheck : (Store.contents db.store).checkEntry
        (encodeKey (Table.mk Schema.settings ∅).schema.keyPrefix [.bytes counterKey])
        (encodeTuple [.bytes (Bytes.ofNatLE 4 counter.toNat)]) = .ok () := by
      rw [hdb]
      exact hfits counter rfl
    have hload : (Store.contents db.store).load
        (encodeKey (Table.mk Schema.settings ∅).schema.keyPrefix [.bytes counterKey])
        (encodeTuple [.bytes (Bytes.ofNatLE 4 counter.toNat)]) = m :=
      hrestore
    rw [hput, hcheck, hload] at hset
    exact hset.outcome

/-- So it undoes the last move of the counter. -/
theorem restoreCounter_undoes (hlawful : Store.Lawful κ Fails)
    {cache : OrderedMap String Schema} (h : l.Describes limits m cache tables next)
    (hdb : Store.contents db.store =
      m.load (counterEntry (next + 1)).1 (counterEntry (next + 1)).2) :
    ∃ t, restoreCounter (storedCounter next) db = .ok () t ∧ t.cache = db.cache ∧
      t.poison = db.poison ∧ (Store.contents t.store = m ∨ (∃ cause, Fails cause) ∧
        Store.contents t.store = Store.contents db.store) := by
  have hnext : (UInt32.ofNat next).toNat = next :=
    UInt32.toNat_ofNat_of_lt' (lt_size_of_le_maxWord32 h.le_last)
  have hget : m.get? (counterEntry (next + 1)).1 =
      (storedCounter next).map fun counter => (counterEntry counter.toNat).2 := by
    rw [get?_counter h, counterRow, storedCounter]
    split
    · rfl
    · rw [Option.map_some, Option.map_some, hnext]
      rfl
  refine restoreCounter_back hlawful hget ?_ hdb
  -- the old counter was stored before, so it fits
  intro counter hcounter
  exact h.fits _ _ (hget.trans (by rw [hcounter]; rfl))

/-- A table that cannot be entered leaves no trace, unless the store fails. -/
theorem undo_ends (hlawful : Store.Lawful κ Fails) {db' : Database κ}
    (h : l.Describes limits (Store.contents db.store) db.cache tables next)
    (hlast : next < maxWord32)
    (hcheck : (Store.contents db.store).checkEntry (counterEntry (next + 1)).1
      (counterEntry (next + 1)).2 = .ok ())
    (hcontents : Store.contents db'.store =
      (Store.contents db.store).load (counterEntry (next + 1)).1 (counterEntry (next + 1)).2)
    (hcache : db'.cache = db.cache) (hpoison : db'.poison = db.poison)
    (hcause : answer = .error e ∧ e.isFatal = false ∨ ∃ cause, Fails cause) :
    Ends Fails db limits tables tables' next' answer
      ((restoreCounter (storedCounter next) >>= fun _ => throw e) db') := by
  obtain ⟨t, hrun, htcache, htpoison, hstate⟩ :=
    restoreCounter_undoes hlawful h hcontents
  rw [Action.bind_ok hrun]
  rcases hstate with hback | ⟨⟨cause, hfails⟩, hkept⟩
  · -- the counter is back, so that nothing has changed
    have hsame : Same db t := ⟨hback, htcache.trans hcache, htpoison.trans hpoison⟩
    rcases hcause with ⟨rfl, hfatal⟩ | ⟨cause, hfails⟩
    · exact .refused hfatal hsame
    · exact .failed hfails (hsame.shows ⟨l, h⟩)
  · -- the counter stays where it is, and its old prefix is lost
    obtain ⟨l', h', -⟩ := h.count hlast hcheck
    rw [← hcontents, ← hkept, ← hcache, ← htcache] at h'
    exact .failed hfails ⟨l', h'⟩

/-- **After the counter has moved**, the schema is entered, or the counter is restored. -/
theorem enter_ends (hlawful : Store.Lawful κ Fails) {db' : Database κ}
    (h : l.Describes limits (Store.contents db.store) db.cache tables next)
    (hlast : next < maxWord32) (hs : s.Sound) (hname : Schema.builtIn? s.name = none)
    (hnew : tables.lookup s.name = none)
    (hcheck : (Store.contents db.store).checkEntry (counterEntry (next + 1)).1
      (counterEntry (next + 1)).2 = .ok ())
    (hcontents : Store.contents db'.store =
      (Store.contents db.store).load (counterEntry (next + 1)).1 (counterEntry (next + 1)).2)
    (hcache : db'.cache = db.cache) (hpoison : db'.poison = db.poison) :
    Ends Fails db limits tables (tables.insert s.name ⟨s, ∅⟩) (next + 1)
      ((limits.check [.ofText s.name] (schemaRow (s.placed (UInt32.ofNat next)))).mapError .store)
      (enter (storedCounter next) (s.placed (UInt32.ofNat next)) db') := by
  obtain ⟨l', h', hfree⟩ := h.count hlast hcheck
  have hfirst := h.first_le
  have hnext : (UInt32.ofNat next).toNat = next :=
    UInt32.toNat_ofNat_of_lt' (lt_size_of_le_maxWord32 hlast.le)
  rw [← hcontents] at h'
  obtain ⟨rows, hrows, hcatalog⟩ := h'.catalog
  have habsent : rows.lookup [.ofText s.name] = none := by
    have hunknown := h.known s.name
    rw [hnew, Option.isSome_none, Option.isSome_eq_false_iff, Option.isNone_iff_eq_none]
      at hunknown
    rw [hcatalog, hunknown]
    rfl
  have hkey : Schema.catalog.HasKey [.ofText s.name] := rfl
  have hothers : Schema.catalog.HasOthers (schemaRow (s.placed (UInt32.ofNat next))) := rfl
  have hrow : (Table.mk Schema.catalog rows).rowOf (textRecord
      [("name", Bytes.ofText (s.placed (UInt32.ofNat next)).name),
        ("def", (s.placed (UInt32.ofNat next)).toJson.compact)]) =
        .ok ([.ofText s.name], schemaRow (s.placed (UInt32.ofNat next))) := rfl
  have hset := setRow_obeys db' hlawful rfl hrow .insert
  have hcheckRow := (Store.contents db'.store).checkEntry_eq Schema.catalog.keyPrefix
    [.ofText s.name] (schemaRow (s.placed (UInt32.ofNat next)))
  rw [h'.holds.put_eq hrows hkey hothers, h'.limits_eq, habsent] at hset
  rw [h'.limits_eq] at hcheckRow
  unfold enter
  rcases hset.of_check with ⟨t, hrun, hlimits, htcontents, htcache, htpoison⟩ |
    ⟨e, t, hrun, hcause, hsame⟩
  · rw [Action.bind_ok (Action.attempt_ok hrun), hlimits]
    refine .done (htpoison.trans hpoison) ?_
    obtain ⟨l'', h''⟩ := h'.enter hs hname (hfirst.trans_eq hnext.symm) (by omega)
      (hfree _ hnext.ge) (hcheckRow.trans hlimits)
    refine ⟨l'', ?_⟩
    show l''.Describes limits (Store.contents t.store)
      (t.cache.insert s.name (s.placed (UInt32.ofNat next))) _ _
    rw [htcontents, htcache, hcache]
    exact h''
  · rw [Action.bind_ok (Action.attempt_error hrun)]
    refine undo_ends hlawful h hlast hcheck (hsame.contents_eq.trans hcontents)
      (hsame.cache_eq.trans hcache) (hsame.poison_eq.trans hpoison) ?_
    rcases hcause with hlimits | hfails
    · rw [hlimits]
      exact .inl ⟨rfl, Limits.isFatal_of_check hlimits⟩
    · exact .inr ⟨e, hfails⟩

/-- **The counter moves**, and the schema is entered. -/
theorem allot_ends (hlawful : Store.Lawful κ Fails)
    (h : l.Describes limits (Store.contents db.store) db.cache tables next)
    (hlast : next < maxWord32) (hs : s.Sound) (hname : Schema.builtIn? s.name = none)
    (hnew : tables.lookup s.name = none) :
    Ends Fails db limits tables (tables.insert s.name ⟨s, ∅⟩) (next + 1)
      (do
        (limits.check [.bytes counterKey] [.bytes (Bytes.ofNatLE 4 (next + 1))]).mapError .store
        (limits.check [.ofText s.name]
          (schemaRow (s.placed (UInt32.ofNat next)))).mapError .store)
      ((setRow Schema.settings (counterRecord (UInt32.ofNat next + 1)) .upsert >>= fun _ =>
        enter (storedCounter next) (s.placed (UInt32.ofNat next))) db) := by
  obtain ⟨rows, hrows, -⟩ := h.settings
  have hkey : Schema.settings.HasKey [.bytes counterKey] := rfl
  have hothers : Schema.settings.HasOthers [.bytes (Bytes.ofNatLE 4 (next + 1))] := rfl
  have hsucc : UInt32.ofNat next + 1 = UInt32.ofNat (next + 1) :=
    (UInt32.ofNat_add next 1).symm
  have hset := setRow_obeys db hlawful rfl
    (rowOf_counterRecord rows (Nat.succ_le_of_lt hlast)) .upsert
  rw [h.holds.upsert_eq hrows hkey hothers, h.limits_eq] at hset
  have hcheck := (Store.contents db.store).checkEntry_eq Schema.settings.keyPrefix
    [.bytes counterKey] [.bytes (Bytes.ofNatLE 4 (next + 1))]
  rw [h.limits_eq] at hcheck
  rw [hsucc]
  rcases hset.of_check with ⟨t, hrun, hlimits, hcontents, hcache, hpoison⟩ |
    ⟨e, t, hrun, hcause, hsame⟩
  · rw [Action.bind_ok hrun, hlimits]
    exact enter_ends hlawful h hlast hs hname hnew (hcheck.trans hlimits) hcontents hcache hpoison
  · rw [Action.bind_error hrun]
    rcases hcause with hlimits | hfails
    · rw [hlimits]
      exact .refused (Limits.isFatal_of_check hlimits) hsame
    · exact .failed hfails (hsame.shows ⟨l, h⟩)

/-- **Creating a table.** -/
theorem addTable_ends (hlawful : Store.Lawful κ Fails) (h : db.Shows limits tables next)
    (s : Schema) :
    Ends Fails db limits tables (tables.insert s.name ⟨s.fillPrimary, ∅⟩) (next + 1)
      (tables.accept limits next s) (addTable s db) := by
  obtain ⟨l, hl⟩ := h
  unfold addTable Tables.accept
  cases hcheck : s.check with
  | error fault =>
    have hrun : checkSchema s db = .error (.badSchema s.name fault) db := by
      rw [checkSchema, hcheck]
      rfl
    rw [Action.bind_error hrun]
    exact .refused rfl (Same.refl db)
  | ok _ =>
    have hrun : checkSchema s db = .ok () db := by
      rw [checkSchema, hcheck]
      rfl
    have hfilled : checkSchema s.fillPrimary db = .ok () db := by
      rw [checkSchema, Schema.check_fillPrimary hcheck]
      rfl
    rw [Action.bind_ok hrun]
    by_cases hreserved : s.name.startsWith "@" = true
    · simp only [if_pos hreserved]
      exact .refused rfl (Same.refl db)
    · by_cases hpreset : s.keyPrefix ≠ 0
      · simp only [if_neg hreserved, if_pos hpreset]
        exact .refused rfl (Same.refl db)
      · simp only [if_neg hreserved, if_neg hpreset]
        have hname := s.fillPrimary_name
        have hknown : (db.cache.lookup s.fillPrimary.name).isSome =
            (tables.lookup s.name).isSome := by
          rw [hname, hl.known]
        rw [Action.bind_ok hfilled, Action.bind_ok (getRow_catalog hl s.fillPrimary.name),
          Option.isSome_map, hknown]
        by_cases hexists : (tables.lookup s.name).isSome = true
        · simp only [if_pos hexists, hname]
          exact .refused rfl (Same.refl db)
        · simp only [if_neg hexists]
          rw [Action.bind_ok (readCounter_eq hl), storedCounter_getD]
          have hnext : (UInt32.ofNat next).toNat = next :=
            UInt32.toNat_ofNat_of_lt' (lt_size_of_le_maxWord32 hl.le_last)
          rw [hnext]
          by_cases hlast : next = maxWord32
          · simp only [if_pos hlast, hname]
            exact .refused rfl (Same.refl db)
          · simp only [if_neg hlast]
            have hsound := (Schema.sound_of_check hcheck).fillPrimary
            have hends := allot_ends (s := s.fillPrimary) hlawful hl
              (lt_of_le_of_ne hl.le_last hlast) hsound
            rw [hname] at hends
            exact hends (Schema.builtIn?_of_unreserved hreserved) (by simpa using hexists)

end NewTables

end Database

/-! ## Every call -/

open Database in
/-- **A call ends** as the tables say, or because the store has failed. -/
theorem TableCall.ends {κ : Type} [Store κ] {Fails : StoreError → Prop}
    (hlawful : Store.Lawful κ Fails) {db : Database κ} {limits : Limits} {tables : Tables}
    {next : Nat} (h : db.Shows limits tables next) (hpoison : db.poison = none)
    {call : TableCall} (hcall : call.OnUserTable) :
    Ends Fails db limits tables (tables.apply call) (next + call.creates)
      (tables.answer limits next call) (call.run db) := by
  cases call with
  | create s => exact ((addTable_ends hlawful h s).guarded hpoison).map
  | get name r => exact ((fetch_ends h hcall r).guarded hpoison).map
  | set name r mode => exact ((write_ends hlawful h hcall r mode).guarded hpoison).map
  | insert name r => exact (((write_ends hlawful h hcall r .insert).guarded hpoison).map).map
  | update name r => exact (((write_ends hlawful h hcall r .update).guarded hpoison).map).map
  | upsert name r => exact (((write_ends hlawful h hcall r .upsert).guarded hpoison).map).map
  | delete name r => exact ((remove_ends hlawful h hcall r).guarded hpoison).map

/-- A database that is out of use refuses every call. -/
theorem Database.run_of_poison {κ : Type} [Store κ] {db : Database κ} {reason : String}
    (h : db.poison = some reason) (call : TableCall) :
    call.run db = .error (.poisoned reason) db := by
  cases call with
  | create s => exact Action.map_error _ (guarded_of_poison h)
  | get name r => exact Action.map_error _ (guarded_of_poison h)
  | set name r mode => exact Action.map_error _ (guarded_of_poison h)
  | insert name r => exact Action.map_error _ (Action.bind_error (guarded_of_poison h))
  | update name r => exact Action.map_error _ (Action.bind_error (guarded_of_poison h))
  | upsert name r => exact Action.map_error _ (Action.bind_error (guarded_of_poison h))
  | delete name r => exact Action.map_error _ (guarded_of_poison h)

end PagedTables
