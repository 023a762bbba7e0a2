/-
# The end of use

A fatal error ends the use of a database. This happens in two places: at the end of each call, and
where a scan reads a row. Whatever the store holds, a call leaves a database out of use exactly
if its error is fatal, and from then on every call of the database reports the first such error
and does nothing.

* `Database.Candid` : inside a call, only a fatal error ends the use;
* `Database.Exact` : a call ends the use exactly by a fatal error;
* `Client.exact_call` : every call is exact;
* `Client.poison_exact` : and what it ends stays ended.
-/
import PagedTables.Proofs.Keys.Codec
import PagedTables.Proofs.Tables.Calls
import PagedTables.Proofs.Tables.Client

namespace PagedTables

open PagedTables.Action

/-- A scan stays on its table. -/
theorem Scan.schema_of_next {s t : Scan} (h : s.next = .ok t) : t.schema = s.schema := by
  unfold next at h
  split at h
  · injection h with ht
    rw [← ht]
  · cases h

namespace Database

variable {κ : Type} {α β : Type} {db : Database κ}

/-! ## Actions that leave the use -/

/-- The use has not changed. -/
def SamePoison (db t : Database κ) : Prop :=
  t.poison = db.poison

instance : Std.Refl (SamePoison (κ := κ)) :=
  ⟨fun _ => rfl⟩

instance : Trans (SamePoison (κ := κ)) SamePoison SamePoison :=
  ⟨fun h h' => h'.trans h⟩

theorem samePoison_onStore (act : Action StoreError κ α) : Keeps SamePoison (onStore act) db :=
  Keeps.part (T := fun _ _ => True) trivial fun _ _ => rfl

theorem samePoison_remember (s : Schema) : Keeps SamePoison (remember s) db :=
  .change rfl

theorem samePoison_checkSchema (s : Schema) : Keeps SamePoison (checkSchema s) db := by
  unfold checkSchema
  split
  · exact .answer _
  · exact .fail _

section Store

variable [Store κ]

section Kept

variable {R : Database κ → Database κ → Prop} [Std.Refl R] [Trans R R R]
variable (hstore : ∀ {β : Type} (act : Action StoreError κ β) db, Keeps R (onStore act) db)

include hstore

/-- Operations on rows keep what all operations of the store keep. -/
theorem keeps_setRow (s : Schema) (r : Record) (mode : WriteMode) : Keeps R (setRow s r mode) db :=
  (Keeps.ofExcept _).bind fun _ _ _ => hstore _ _

theorem keeps_deleteRow (s : Schema) (r : Record) : Keeps R (deleteRow s r) db :=
  (Keeps.ofExcept _).bind fun _ _ _ => hstore _ _

/-- Putting the counter back keeps what writing and removing a row keep. -/
theorem keeps_restoreCounter (previous : Option UInt32) :
    Keeps R (restoreCounter previous) db := by
  unfold restoreCounter
  cases previous with
  | none =>
    refine Keeps.bind (.attempt ?_) fun _ _ _ => .answer _
    exact (keeps_deleteRow hstore _ _).bind fun _ _ _ => .answer _
  | some counter =>
    refine Keeps.bind (.attempt ?_) fun _ _ _ => .answer _
    exact (keeps_setRow hstore _ _ _).bind fun _ _ _ => .answer _

end Kept

/-- Writing a row does not end the use, whatever the store does. -/
theorem samePoison_setRow (s : Schema) (r : Record) (mode : WriteMode) :
    Keeps SamePoison (setRow s r mode) db :=
  keeps_setRow (fun act _ => samePoison_onStore act) s r mode

theorem samePoison_deleteRow (s : Schema) (r : Record) : Keeps SamePoison (deleteRow s r) db :=
  keeps_deleteRow (fun act _ => samePoison_onStore act) s r

theorem samePoison_restoreCounter (previous : Option UInt32) :
    Keeps SamePoison (restoreCounter previous) db :=
  keeps_restoreCounter (fun act _ => samePoison_onStore act) previous

end Store

/-! ## Inside a call -/

/-- The action ends the use of the database only with a fatal error. -/
structure Candid (act : Action DatabaseError (Database κ) α) (db : Database κ) : Prop where
  ok : ∀ {a t}, act db = .ok a t → t.poison = db.poison
  error : ∀ {e t}, act db = .error e t → t.poison = db.poison ∨ e.isFatal = true

namespace Candid

variable {act : Action DatabaseError (Database κ) α}
variable {rest : α → Action DatabaseError (Database κ) β}

theorem of_error {e : DatabaseError} {t : Database κ} (hrun : act db = .error e t)
    (he : e.isFatal = true) : Candid act db where
  ok := by
    intro a u hok
    rw [hrun] at hok
    cases hok
  error := by
    intro e' u herror
    rw [hrun] at herror
    injection herror with hee
    exact .inr (hee ▸ he)

theorem of_keeps (h : Keeps SamePoison act db) : Candid act db :=
  ⟨fun hrun => h.ok hrun, fun hrun => .inl (h.error hrun)⟩

theorem answer (a : α) : Candid (pure a) db :=
  .of_keeps (.answer a)

theorem fail (e : DatabaseError) : Candid (throw e : Action _ _ α) db :=
  .of_keeps (.fail e)

/-- A sequence is candid if its parts are. -/
theorem bind (h : Candid act db) (hrest : ∀ a t, act db = .ok a t → Candid (rest a) t) :
    Candid (act >>= rest) db where
  ok := by
    intro b t hrun
    obtain ⟨a, u, hact, hrun⟩ := exists_of_bind_ok hrun
    exact ((hrest a u hact).ok hrun).trans (h.ok hact)
  error := by
    intro e t hrun
    rcases cases_of_bind_error hrun with hact | ⟨a, u, hact, hrun⟩
    · exact h.error hact
    · rw [← h.ok hact]
      exact (hrest a u hact).error hrun

/-- An action that may refuse at once is candid if what it does otherwise is. -/
theorem guard {c : Prop} [Decidable c] {e : DatabaseError} {refusal : PUnit → Action _ _ α}
    (h : Candid act db) : Candid (if c then throw e >>= refusal else act) db := by
  split
  · exact (Candid.fail e).bind nofun
  · exact h

end Candid

/-- A scan reads the row that it stands on; one that cannot be decoded ends the use. -/
theorem fetch_cases (s : Scan) (db : Database κ) :
    (∃ e values, Scan.decodeRow s.schema e = .ok values ∧
      fetch s db = .ok (Record.ofRow s.schema values) db) ∨
    (∃ error, fetch s db = .error (.undecodable error) { db with poison := some error.message }) ∨
    fetch s db = .error .invalidCursor db := by
  cases hentry : s.entry? with
  | none =>
    refine .inr (.inr ?_)
    unfold fetch Scan.row
    rw [hentry]
    rfl
  | some e =>
    cases hrow : Scan.decodeRow s.schema e with
    | ok values => exact .inl ⟨e, values, hrow, fetch_eq hentry hrow db⟩
    | error error => exact .inr (.inl ⟨error, fetch_undecodable hentry hrow db⟩)

/-- A row that cannot be decoded ends the use, and is reported as fatal. -/
theorem candid_fetch (s : Scan) : Candid (fetch s) db := by
  rcases fetch_cases s db with ⟨e, values, -, hrun⟩ | ⟨error, hrun⟩ | hrun
  · exact .of_keeps (.of_ok hrun rfl)
  · exact .of_error hrun rfl
  · exact .of_keeps (.of_error hrun rfl)

variable [Store κ]

theorem candid_getRow (s : Schema) (r : Record) : Candid (getRow s r) db := by
  refine (Candid.of_keeps (.ofExcept _)).bind fun values _ _ => ?_
  refine (Candid.of_keeps (.read (.answer _))).bind fun _ _ _ => ?_
  simp only
  split
  · exact (candid_fetch _).bind fun _ _ _ => .answer _
  · exact .answer _

theorem candid_readCounter : Candid readCounter db := by
  refine (candid_getRow _ _).bind fun row _ _ => ?_
  cases row with
  | none => exact .answer _
  | some r => exact (Candid.of_keeps (.ofExcept (counterOf r))).bind fun _ _ _ => .answer _

theorem candid_resolve (name : String) : Candid (resolve name) db := by
  refine (Candid.of_keeps (.read (.answer _))).bind fun t _ _ => ?_
  split
  · exact .answer _
  · refine (candid_getRow _ _).bind fun row _ _ => ?_
    split
    · exact .fail _
    · split
      · exact .fail _
      · exact (Candid.of_keeps (samePoison_remember _)).bind fun _ _ _ => .answer _

theorem candid_enter (previous : Option UInt32) (s : Schema) : Candid (enter previous s) db := by
  refine (Candid.of_keeps (.attempt (samePoison_setRow _ _ _))).bind fun outcome _ _ => ?_
  split
  · exact .of_keeps (samePoison_remember _)
  · exact (Candid.of_keeps (samePoison_restoreCounter _)).bind fun _ _ _ => .fail _

/-- A table is created candidly. -/
theorem candid_addTable (s : Schema) : Candid (addTable s) db := by
  unfold addTable
  refine (Candid.of_keeps (samePoison_checkSchema _)).bind fun _ _ _ => .guard (.guard ?_)
  refine (Candid.of_keeps (samePoison_checkSchema _)).bind fun _ _ _ => ?_
  refine (candid_getRow _ _).bind fun row _ _ => .guard ?_
  refine candid_readCounter.bind fun previous _ _ => .guard ?_
  exact (Candid.of_keeps (samePoison_setRow _ _ _)).bind fun _ _ _ => candid_enter _ _

theorem candid_prepareScan (name : String) (range : KeyRange) :
    Candid (prepareScan name range) db := by
  unfold prepareScan
  split
  · refine (candid_resolve _).bind fun s _ _ => ?_
    refine (Candid.of_keeps (.ofExcept _)).bind fun start _ _ => ?_
    exact (Candid.of_keeps (.ofExcept _)).bind fun stop _ _ => .answer _
  · exact .fail _

/-! ## Whole calls -/

/-- From a database in use, the action ends the use exactly if it fails with a fatal error. -/
structure Exact (act : Action DatabaseError (Database κ) α) (db : Database κ) : Prop where
  ok : ∀ {a t}, act db = .ok a t → t.poison = none
  error : ∀ {e t}, act db = .error e t → t.poison.isSome = e.isFatal

namespace Exact

variable {act : Action DatabaseError (Database κ) α}
variable {rest : α → Action DatabaseError (Database κ) β} {a : α} {e : DatabaseError}
variable {t : Database κ}

omit [Store κ]

theorem of_ok (hrun : act db = .ok a t) (h : t.poison = none) : Exact act db where
  ok := by
    intro b u hok
    rw [hrun] at hok
    injection hok with _ htu
    exact htu ▸ h
  error := by
    intro e u herror
    rw [hrun] at herror
    cases herror

theorem of_error (hrun : act db = .error e t) (h : t.poison.isSome = e.isFatal) :
    Exact act db where
  ok := by
    intro a u hok
    rw [hrun] at hok
    cases hok
  error := by
    intro e' u herror
    rw [hrun] at herror
    injection herror with he htu
    exact he ▸ htu ▸ h

theorem answer (hpoison : db.poison = none) (a : α) : Exact (pure a) db :=
  .of_ok rfl hpoison

theorem read {rest : Database κ → Action DatabaseError (Database κ) β} (h : Exact (rest db) db) :
    Exact (MonadState.get >>= rest) db :=
  ⟨h.ok, h.error⟩

theorem bind (h : Exact act db)
    (hrest : ∀ a t, act db = .ok a t → t.poison = none → Exact (rest a) t) :
    Exact (act >>= rest) db where
  ok := by
    intro b t hrun
    obtain ⟨a, u, hact, hrun⟩ := exists_of_bind_ok hrun
    exact (hrest a u hact (h.ok hact)).ok hrun
  error := by
    intro e t hrun
    rcases cases_of_bind_error hrun with hact | ⟨a, u, hact, hrun⟩
    · exact h.error hact
    · exact (hrest a u hact (h.ok hact)).error hrun

theorem map (h : Exact act db) (f : α → β) : Exact (f <$> act) db := by
  rw [map_eq_pure_bind]
  exact h.bind fun a t _ ht => .answer ht _

/-- After an exact action the use has ended exactly if its error is fatal. -/
theorem outcome_iff (h : Exact act db) : (act.outcome db).2.poison.isSome = true ↔
    ∃ e, (act.outcome db).1 = .error e ∧ e.isFatal = true := by
  unfold Action.outcome
  cases hrun : act db with
  | ok a t => simp [h.ok hrun]
  | error e t => simp [h.error hrun]

end Exact

section Guarded

omit [Store κ]

/-- **The guard is exact**: it ends the use at the fatal errors at which a scan has not. -/
theorem exact_guarded {act : Action DatabaseError (Database κ) α} (hpoison : db.poison = none)
    (h : Candid act db) : Exact (guarded act) db := by
  cases hrun : act db with
  | ok a t => exact .of_ok (guarded_ok hpoison hrun) ((h.ok hrun).trans hpoison)
  | error e t =>
    cases hfatal : e.isFatal with
    | false =>
      have hsame : t.poison = db.poison := (h.error hrun).resolve_right (by rw [hfatal]; nofun)
      refine .of_error (guarded_error hpoison hrun hfatal) ?_
      rw [hsame, hpoison, hfatal]
      rfl
    | true =>
      refine .of_error (guarded_fatal hpoison hrun hfatal) ?_
      rw [hfatal]
      cases hold : t.poison <;> simp [hold]

/-- Reading a row is exact. -/
theorem exact_fetch (hpoison : db.poison = none) (s : Scan) : Exact (fetch s) db := by
  rcases fetch_cases s db with ⟨e, values, -, hrun⟩ | ⟨error, hrun⟩ | hrun
  · exact .of_ok hrun hpoison
  · exact .of_error hrun rfl
  · exact .of_error hrun (by rw [hpoison]; rfl)

/-- Moving a scan on is exact: it never ends the use. -/
theorem exact_next (hpoison : db.poison = none) (s : Scan) :
    Exact (Action.ofExcept s.next) db := by
  unfold Scan.next
  split
  · exact .of_ok rfl hpoison
  · exact .of_error rfl (by rw [hpoison]; rfl)

theorem exact_take (hpoison : db.poison = none) (n : Nat) (s : Scan) : Exact (take n s) db := by
  induction n generalizing s db with
  | zero => exact .answer hpoison _
  | succ n ih =>
    unfold take
    split
    · refine (exact_fetch hpoison s).bind fun row t _ ht => ?_
      refine (exact_next ht s).bind fun s' t' _ ht' => ?_
      exact (ih ht' s').bind fun rows t _ ht => .answer ht _
    · exact .answer hpoison _

/-- The rows of a scan have been decoded by the schema of its table. -/
theorem exists_of_mem_take {n : Nat} {s : Scan} {rows : List Record} {t : Database κ}
    (h : take n s db = .ok rows t) {row : Record} (hrow : row ∈ rows) :
    ∃ e values, Scan.decodeRow s.schema e = .ok values ∧ row = Record.ofRow s.schema values := by
  induction n generalizing s rows db t with
  | zero =>
    injection h with hrows
    rw [← hrows] at hrow
    cases hrow
  | succ n ih =>
    unfold take at h
    split at h
    · obtain ⟨first, u, hfetch, h⟩ := exists_of_bind_ok h
      obtain ⟨s', v, hnext, h⟩ := exists_of_bind_ok h
      obtain ⟨others, w, htake, h⟩ := exists_of_bind_ok h
      injection h with hrows
      rw [← hrows] at hrow
      have hschema : s'.schema = s.schema := by
        cases hmoved : s.next with
        | ok moved =>
          rw [hmoved] at hnext
          injection hnext with hmoved'
          rw [← hmoved', Scan.schema_of_next hmoved]
        | error e =>
          rw [hmoved] at hnext
          cases hnext
      rcases List.mem_cons.mp hrow with rfl | hrow
      · rcases fetch_cases s db with ⟨e, values, hdecode, hrun⟩ | ⟨error, hrun⟩ | hrun
        · rw [hrun] at hfetch
          injection hfetch with hfirst
          exact ⟨e, values, hdecode, hfirst.symm⟩
        · rw [hrun] at hfetch
          cases hfetch
        · rw [hrun] at hfetch
          cases hfetch
      · rw [← hschema]
        exact ih htake hrow
    · injection h with hrows
      rw [← hrows] at hrow
      cases hrow

/-- A decoded row of the catalog has a name. -/
theorem exists_nameIn {e : Entry} {values : List Value}
    (h : Scan.decodeRow Schema.catalog e = .ok values) :
    ∃ name, nameIn (Record.ofRow Schema.catalog values) = .ok name := by
  obtain ⟨keys, hkeys, h⟩ := Except.bind_eq_ok_iff.mp h
  obtain ⟨others, -, h⟩ := Except.bind_eq_ok_iff.mp h
  injection h with hvalues
  have htypes : keys.map Value.type = [.bytes] := (decodeKey_eq_ok_iff.mp hkeys).1
  obtain ⟨v, rfl, hv⟩ := List.map_eq_singleton_iff.mp htypes
  cases v with
  | int64 n => cases hv
  | bytes b =>
    have hname : bytesIn (Record.ofRow Schema.catalog values) "name" = some b := by
      rw [← hvalues]
      rfl
    exact ⟨_, by rw [nameIn, hname]⟩

end Guarded

theorem exact_scanTable (hpoison : db.poison = none) (name : String) :
    Exact (scanTable name) db :=
  (exact_guarded hpoison (candid_resolve name)).bind fun _ _ _ ht => .read (.answer ht _)

theorem exact_scan (hpoison : db.poison = none) (name : String) (range : KeyRange) :
    Exact (scan name range) db :=
  (exact_guarded hpoison (candid_prepareScan name range)).bind fun _ _ _ ht =>
    .read (.answer ht _)

/-- A scan of the catalog reads rows of the catalog. -/
theorem schema_of_scanTable {s : Scan} {t : Database κ}
    (h : scanTable Schema.catalogName db = .ok s t) : s.schema = Schema.catalog := by
  obtain ⟨schema, u, hguarded, h⟩ := exists_of_bind_ok h
  injection h with hs
  rw [← hs]
  show schema = Schema.catalog
  cases hpoison : db.poison with
  | some reason =>
    rw [guarded_of_poison hpoison] at hguarded
    cases hguarded
  | none =>
    have hresolve : resolve Schema.catalogName db = .ok Schema.catalog db := rfl
    rw [guarded_ok hpoison hresolve] at hguarded
    injection hguarded with hschema
    exact hschema.symm

/-- The names of tables are read without a guard, but their rows have been decoded. -/
theorem exact_tableNames (hpoison : db.poison = none) : Exact tableNames db := by
  refine (exact_scanTable hpoison _).bind fun s t hscan ht => ?_
  refine (exact_take ht _ s).bind fun rows u hrows hu => ?_
  have hnames : ∀ row ∈ rows, ∃ name, nameIn row = .ok name := by
    intro row hrow
    obtain ⟨e, values, hdecode, rfl⟩ := exists_of_mem_take hrows hrow
    rw [schema_of_scanTable hscan] at hdecode ⊢
    exact exists_nameIn hdecode
  cases hmap : rows.mapM nameIn with
  | ok names => exact .of_ok rfl hu
  | error e =>
    obtain ⟨row, hrow, he⟩ := Except.exists_error_of_mapM hmap
    obtain ⟨name, hname⟩ := hnames row hrow
    rw [hname] at he
    cases he

theorem exact_flush (hpoison : db.poison = none) : Exact flush db :=
  exact_guarded hpoison (.of_keeps (samePoison_onStore _))

/-! ## Scans -/

section Retires

omit [Store κ]

/-- At most the use of the database has ended. -/
structure Retires (db t : Database κ) : Prop where
  rest_eq : t = { db with poison := t.poison }
  ended : db.poison.isSome = true → t.poison.isSome = true

instance : Std.Refl (Retires (κ := κ)) :=
  ⟨fun _ => ⟨rfl, fun h => h⟩⟩

instance : Trans (Retires (κ := κ)) Retires Retires :=
  ⟨fun h h' => ⟨by rw [h'.rest_eq, h.rest_eq], fun hdb => h'.ended (h.ended hdb)⟩⟩

/-- Reading a row does at most end the use. -/
theorem retires_fetch (s : Scan) : Keeps Retires (fetch s) db := by
  rcases fetch_cases s db with ⟨e, values, -, hrun⟩ | ⟨error, hrun⟩ | hrun
  · exact .of_ok hrun (Std.Refl.refl db)
  · exact .of_error hrun ⟨rfl, fun _ => rfl⟩
  · exact .of_error hrun (Std.Refl.refl db)

theorem retires_take (n : Nat) (s : Scan) : Keeps Retires (take n s) db := by
  induction n generalizing s db with
  | zero => exact .answer _
  | succ n ih =>
    unfold take
    split
    · refine (retires_fetch s).bind fun row _ _ => ?_
      refine (Keeps.ofExcept _).bind fun s' _ _ => ?_
      exact (ih s').bind fun rows _ _ => .answer _
    · exact .answer _

end Retires

end Database

/-! ## Every call -/

open Database

variable {κ : Type} {db : Database κ}

theorem ScanCall.exact_run (hpoison : db.poison = none) (s : Scan) (call : ScanCall) :
    Exact (call.run s) db := by
  cases call with
  | isValid => exact .answer hpoison _
  | next => exact (exact_next hpoison s).map _
  | row => exact (exact_fetch hpoison s).map _
  | collect => exact (exact_take hpoison _ s).map _

/-- A scan changes no entry, and no schema at hand. -/
theorem ScanCall.retires_run (s : Scan) (call : ScanCall) : Keeps Retires (call.run s) db := by
  cases call with
  | isValid => exact .answer _
  | next => exact (Keeps.ofExcept _).map _
  | row => exact (retires_fetch s).map _
  | collect => exact (retires_take _ s).map _

variable [Store κ]

theorem Database.exact_set (hpoison : db.poison = none) (name : String) (r : Record)
    (mode : WriteMode) : Exact (Database.set name r mode) db :=
  exact_guarded hpoison
    ((candid_resolve name).bind fun _ _ _ => .of_keeps (samePoison_setRow _ _ _))

theorem TableCall.exact_run (hpoison : db.poison = none) (call : TableCall) :
    Exact call.run db := by
  cases call with
  | create s => exact (exact_guarded hpoison (candid_addTable s)).map _
  | get name r =>
    exact (exact_guarded hpoison ((candid_resolve name).bind fun _ _ _ => candid_getRow _ _)).map _
  | set name r mode => exact (exact_set hpoison name r mode).map _
  | insert name r => exact ((exact_set hpoison name r .insert).map _).map _
  | update name r => exact ((exact_set hpoison name r .update).map _).map _
  | upsert name r => exact ((exact_set hpoison name r .upsert).map _).map _
  | delete name r =>
    exact (exact_guarded hpoison
      ((candid_resolve name).bind fun _ _ _ => .of_keeps (samePoison_deleteRow _ _))).map _

theorem DatabaseCall.exact_run (hpoison : db.poison = none) (call : DatabaseCall) :
    Exact call.run db := by
  cases call with
  | table call => exact (call.exact_run hpoison).map _
  | schemaOf name => exact (exact_guarded hpoison (candid_resolve name)).map _
  | tableNames => exact (exact_tableNames hpoison).map _
  | scan name range => exact (exact_scan hpoison name range).map _
  | scanTable name => exact (exact_scanTable hpoison name).map _
  | flush => exact (exact_flush hpoison).map _
  | close => exact (exact_flush hpoison).map _

/-! ## Clients -/

namespace Client

variable {u : Client κ} {reason : String}

/-- **Every call is exact.** -/
theorem exact_call (hpoison : u.db.poison = none) (c : Call) :
    (u.call c).2.db.poison.isSome = true ↔ ∃ e, (u.call c).1 = .error e ∧ e.isFatal = true := by
  cases c with
  | database call =>
    simp only [Client.call, Except.map_eq_error_iff]
    exact (call.exact_run hpoison).outcome_iff
  | scan call =>
    unfold Client.call
    cases hscan : u.scan with
    | none =>
      simp only [hpoison, Except.error.injEq, exists_eq_left']
      decide
    | some s =>
      simp only [Except.map_eq_error_iff]
      exact (call.exact_run hpoison s).outcome_iff

/-- A database that is out of use refuses every call, and nothing happens. -/
theorem database_of_poison (hpoison : u.db.poison = some reason) (call : DatabaseCall) :
    u.call (.database call) = (.error (.poisoned reason), ⟨u.db, none⟩) := by
  have hrun : call.run u.db = .error (.poisoned reason) u.db := by
    cases call with
    | table call => exact map_error _ (run_of_poison hpoison call)
    | schemaOf name => exact map_error _ (guarded_of_poison hpoison)
    | tableNames =>
      exact map_error _ (bind_error (bind_error (guarded_of_poison hpoison)))
    | scan name range => exact map_error _ (bind_error (guarded_of_poison hpoison))
    | scanTable name => exact map_error _ (bind_error (guarded_of_poison hpoison))
    | flush => exact map_error _ (guarded_of_poison hpoison)
    | close => exact map_error _ (guarded_of_poison hpoison)
  rw [Client.call, Action.outcome, hrun]
  rfl

/-- A scan that is still open may give another reason, but changes no entry. -/
theorem scan_of_poison (hpoison : u.db.poison.isSome = true) (call : ScanCall) :
    (u.call (.scan call)).2.db.poison.isSome = true ∧
      (u.call (.scan call)).2.db.store = u.db.store := by
  unfold Client.call
  cases hscan : u.scan with
  | none => exact ⟨hpoison, rfl⟩
  | some s =>
    have hretires : u.db.Retires ((call.run s).outcome u.db).2 := call.retires_run s
    refine ⟨hretires.ended hpoison, ?_⟩
    show ((call.run s).outcome u.db).2.store = u.db.store
    rw [hretires.rest_eq]

/-- Once no scan is open, the reason is the same for all calls. -/
theorem runAll_of_poison (hpoison : u.db.poison = some reason) (hscan : u.scan = none)
    (calls : List Call) :
    (u.runAll calls).2 = u ∧
      ∀ c reply, (.database c, reply) ∈ (u.runAll calls).1 → reply = .error (.poisoned reason) := by
  have hstay : ∀ c, (u.call c).2 = u := by
    intro c
    cases c with
    | database call =>
      rw [database_of_poison hpoison, ← hscan]
    | scan call =>
      rw [Client.call, hscan]
  induction calls with
  | nil => exact ⟨rfl, fun _ _ hmem => absurd hmem List.not_mem_nil⟩
  | cons c calls ih =>
    rw [runAll_cons, hstay c]
    refine ⟨ih.1, fun d reply hmem => ?_⟩
    rcases List.mem_cons.mp hmem with hfirst | hrest
    · obtain ⟨rfl, rfl⟩ := Prod.mk.inj hfirst
      rw [database_of_poison hpoison]
    · exact ih.2 d reply hrest

/-- **What has ended stays ended.** -/
theorem ended_runAll (hpoison : u.db.poison.isSome = true) (calls : List Call) :
    (u.runAll calls).2.db.poison.isSome = true ∧ (u.runAll calls).2.db.store = u.db.store ∧
      ∃ reason, ∀ c reply, (.database c, reply) ∈ (u.runAll calls).1 →
        reply = .error (.poisoned reason) := by
  -- up to the first call of the database the open scan may replace the reason
  induction calls generalizing u with
  | nil => exact ⟨hpoison, rfl, "", fun _ _ hmem => absurd hmem List.not_mem_nil⟩
  | cons c calls ih =>
    rw [runAll_cons]
    cases c with
    | database call =>
      obtain ⟨reason, hreason⟩ := Option.isSome_iff_exists.mp hpoison
      have hcall := database_of_poison hreason call
      rw [hcall]
      have hu : (⟨u.db, none⟩ : Client κ).db.poison = some reason := hreason
      obtain ⟨hlast, hreplies⟩ := runAll_of_poison hu rfl calls
      rw [hlast]
      refine ⟨hpoison, rfl, reason, fun d reply hmem => ?_⟩
      rcases List.mem_cons.mp hmem with hfirst | hrest
      · exact (Prod.mk.inj hfirst).2
      · exact hreplies d reply hrest
    | scan call =>
      obtain ⟨hstill, hstore⟩ := scan_of_poison hpoison call
      obtain ⟨hlast, hlastStore, reason, hreplies⟩ := ih hstill
      refine ⟨hlast, hlastStore.trans hstore, reason, fun d reply hmem => ?_⟩
      rcases List.mem_cons.mp hmem with hfirst | hrest
      · cases (Prod.mk.inj hfirst).1
      · exact hreplies d reply hrest

/-- **Poison is exact and permanent.** Whatever the store holds, and whatever was called before, a
call that fails with a fatal error leaves the database out of use, and only such a call does. All
later calls of the database then report one and the same reason, and no entry changes any more. -/
theorem poison_exact (s : κ) (before : List Call) (c : Call) (after : List Call) :
    let u := (runAll { db := { store := s } } before).2
    let reply := (u.call c).1
    let v := (u.call c).2
    (∀ e, reply = .error e → e.isFatal = true → v.db.poison.isSome = true) ∧
    (u.db.poison = none → v.db.poison.isSome = true → ∃ e, reply = .error e ∧ e.isFatal = true) ∧
    (v.db.poison.isSome = true →
      (v.runAll after).2.db.poison.isSome = true ∧ (v.runAll after).2.db.store = v.db.store ∧
      ∃ reason, ∀ d reply, (.database d, reply) ∈ (v.runAll after).1 →
        reply = .error (.poisoned reason)) := by
  intro u reply v
  refine ⟨fun e he hfatal => ?_, fun hpoison => (exact_call hpoison c).mp,
    fun hpoison => ended_runAll hpoison after⟩
  cases hpoison : u.db.poison with
  | none => exact (exact_call hpoison c).mpr ⟨e, he, hfatal⟩
  | some reason =>
    -- the database was out of use before, and still is
    have hended := (ended_runAll (by rw [hpoison]; rfl : u.db.poison.isSome = true) [c]).1
    exact hended

/-- A store with a row in the catalog that cannot be decoded: its name does not end. -/
def endlessName : MemoryStore :=
  MemoryStore.empty.load (prefixKey Schema.catalog.keyPrefix ++ [7]) []

/-- Reading the names of tables ends the use of a database on this store. -/
theorem poison_exact_of_endlessName :
    let u : Client MemoryStore := { db := { store := endlessName } }
    (∃ e, (u.call (.database .tableNames)).1 = .error e ∧ e.isFatal = true) ∧
    (u.call (.database .tableNames)).2.db.poison.isSome = true ∧
    ∃ reason, ∀ d reply, (.database d, reply) ∈ ((u.call (.database .tableNames)).2.runAll
      [.database .flush, .database (.table (.insert "a" ⟨[]⟩)), .database .close]).1 →
      reply = .error (.poisoned reason) := by
  intro u
  have hpoison : (u.call (.database .tableNames)).2.db.poison.isSome = true := by
    decide +kernel
  obtain ⟨-, hcause, hended⟩ := poison_exact endlessName [] (.database .tableNames)
    [.database .flush, .database (.table (.insert "a" ⟨[]⟩)), .database .close]
  exact ⟨hcause rfl hpoison, hpoison, (hended hpoison).2.2⟩

end Client

end PagedTables
