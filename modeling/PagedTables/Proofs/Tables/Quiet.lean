/-
# Use that changes nothing

A file in which a database or a store is open is written only where a call reports a change. What
reads, is refused, or finds that there is nothing to do leaves the whole store as it was, in
whatever order it is called, and so does the command line program.

* `Database.Quiet` : an action that leaves the store if it ends in certain ways;
* `TableCall.quiet_run`, `Inspection.sameStore_run` : calls on tables, and questions;
* `Client.Quietly` : the use of a database without a change;
* `file_kept` : what opening and such a use leave of a file.
-/
import PagedTables.CommandLine.Run
import PagedTables.Proofs.Store.Damaged
import PagedTables.Proofs.Store.Quiet
import PagedTables.Proofs.Tables.Following
import PagedTables.Proofs.Tables.Undone

namespace PagedTables

open PagedTables.Action

/-! ## Actions in other words -/

namespace Action

variable {ε σ α β : Type} {R : σ → σ → Prop} {s : σ}

theorem outcome_map (f : α → β) (act : Action ε σ α) (s : σ) :
    (f <$> act).outcome s = ((act.outcome s).1.map f, (act.outcome s).2) := by
  cases hrun : act s with
  | ok a t => rw [outcome_of_ok hrun, outcome_of_ok (map_ok f hrun)]; rfl
  | error e t => rw [outcome_of_error hrun, outcome_of_error (map_error f hrun)]; rfl

/-- Actions over a list keep what each of them keeps. -/
theorem Keeps.mapM [Std.Refl R] [Trans R R R] {f : α → Action ε σ β}
    (h : ∀ a s, Keeps R (f a) s) (l : List α) : Keeps R (l.mapM f) s := by
  induction l generalizing s with
  | nil => exact .answer _
  | cons a l ih =>
    rw [List.mapM_cons]
    exact (h a s).bind fun _ _ _ => ih.bind fun _ _ _ => .answer _

end Action

namespace Database

/-! ## Reading -/

section Reading

variable {κ : Type} {α β : Type} {db t : Database κ}

/-- The end of the use leaves the store. -/
theorem Retires.sameStore (h : db.Retires t) : db.SameStore t :=
  h.untouched.store_eq

theorem sameStore_poisonWith (reason : String) (replace : Bool) :
    Keeps SameStore (poisonWith reason replace) db := by
  refine .change ?_
  split <;> rfl

/-- The guard of a call stores nothing itself. -/
theorem sameStore_guarded {act : Action DatabaseError (Database κ) α}
    (h : Keeps SameStore act db) : Keeps SameStore (guarded act) db := by
  refine .read ?_
  split
  · exact .fail _
  · refine (Keeps.attempt h).bind fun result t _ => ?_
    split
    · exact .answer _
    · split
      · exact (sameStore_poisonWith _ _).bind fun _ _ _ => .fail _
      · exact .fail _

theorem sameStore_take (n : Nat) (s : Scan) : Keeps SameStore (take n s) db :=
  (retires_take n s).mono fun _ h => h.sameStore

variable [Store κ]

theorem sameStore_schemaOf (name : String) : Keeps SameStore (schemaOf name) db :=
  sameStore_guarded (sameStore_resolve name)

theorem sameStore_prepareScan (name : String) (range : KeyRange) :
    Keeps SameStore (prepareScan name range) db := by
  unfold prepareScan
  split
  · refine (sameStore_resolve _).bind fun s _ _ => ?_
    exact (Keeps.ofExcept _).bind fun _ _ _ => (Keeps.ofExcept _).bind fun _ _ _ => .answer _
  · exact .fail _

/-- Scanning a range stores nothing. -/
theorem sameStore_scan (name : String) (range : KeyRange) :
    Keeps SameStore (scan name range) db :=
  (sameStore_guarded (sameStore_prepareScan name range)).bind fun _ _ _ => .read (.answer _)

theorem sameStore_scanTable (name : String) : Keeps SameStore (scanTable name) db :=
  (sameStore_schemaOf name).bind fun _ _ _ => .read (.answer _)

theorem sameStore_tableNames : Keeps SameStore tableNames db :=
  (sameStore_scanTable _).bind fun s _ _ =>
    (sameStore_take _ s).bind fun _ _ _ => .ofExcept _

end Reading

/-! ## Actions that may store something -/

section Quiet

variable {κ : Type} {α β : Type} {db t : Database κ}

/-- If the action ends in one of certain ways, it has stored nothing. -/
def Quiet (calm : Except DatabaseError α → Bool) (act : Action DatabaseError (Database κ) α)
    (db : Database κ) : Prop :=
  calm (act.outcome db).1 = true → (act.outcome db).2.store = db.store

namespace Quiet

variable {calm : Except DatabaseError α → Bool} {act : Action DatabaseError (Database κ) α}

theorem of_keeps (h : Keeps SameStore act db) : Quiet calm act db := fun _ => h

/-- What comes before the last action must store nothing. -/
theorem bind {calm : Except DatabaseError β → Bool} {rest : α → Action DatabaseError (Database κ) β}
    (h : Keeps SameStore act db) (hrest : ∀ a t, act db = .ok a t → Quiet calm (rest a) t) :
    Quiet calm (act >>= rest) db := by
  unfold Quiet
  cases hrun : act db with
  | ok a t =>
    have houtcome : (act >>= rest).outcome db = (rest a).outcome t := by
      unfold Action.outcome
      rw [bind_ok hrun]
    rw [houtcome]
    exact fun hcalm => (hrest a t hrun hcalm).trans (h.ok hrun)
  | error e t =>
    rw [outcome_of_error (bind_error hrun)]
    exact fun _ => h.error hrun

theorem guard {c : Prop} [Decidable c] {e : DatabaseError} {refusal : PUnit → Action _ _ α}
    (h : Quiet calm act db) : Quiet calm (if c then throw e >>= refusal else act) db := by
  split
  · exact .bind (Keeps.fail e) nofun
  · exact h

theorem map {calm : Except DatabaseError β → Bool} (f : α → β)
    (h : Quiet (fun r => calm (r.map f)) act db) : Quiet calm (f <$> act) db := by
  unfold Quiet
  rw [outcome_map]
  exact h

/-- The end of the use of a database stores nothing. -/
theorem guarded (h : Quiet calm act db) : Quiet calm (Database.guarded act) db := by
  unfold Quiet
  cases hpoison : db.poison with
  | some reason =>
    rw [outcome_of_error (guarded_of_poison hpoison)]
    exact fun _ => rfl
  | none =>
    unfold Quiet at h
    cases hrun : act db with
    | ok a t =>
      rw [outcome_of_ok hrun] at h
      rwa [outcome_of_ok (guarded_ok hpoison hrun)]
    | error e t =>
      rw [outcome_of_error hrun] at h
      cases hfatal : e.isFatal with
      | false => rwa [outcome_of_error (guarded_error hpoison hrun hfatal)]
      | true =>
        rw [outcome_of_error (guarded_fatal hpoison hrun hfatal)]
        intro hcalm
        split
        · exact h hcalm
        · exact h hcalm

end Quiet

end Quiet

/-! ## Writing to a store in a file -/

section Durable

variable {α : Type} {db : Database DurableStore}

/-- A call reports that nothing has changed, is refused because of its arguments, or is refused
by the store because of the length of an entry. -/
def calm (changed : α → Bool) : Except DatabaseError α → Bool
  | .ok a => !changed a
  | .error (.store e) => e.isLimit
  | .error _ => true

/-- A call is refused before it has reached the store. -/
def refusedEarly : Except DatabaseError α → Bool
  | .ok _ | .error (.store _) => false
  | .error _ => true

theorem calm_map {β : Type} (f : α → β) (changed : β → Bool) :
    (fun r : Except DatabaseError α => calm changed (r.map f)) =
      calm fun a => changed (f a) := by
  funext r
  cases r with
  | ok a => rfl
  | error e => cases e <;> rfl

theorem Quiet.map_calm {β : Type} {act : Action DatabaseError (Database DurableStore) α}
    {changed : β → Bool} (f : α → β) (h : Quiet (calm fun a => changed (f a)) act db) :
    Quiet (calm changed) (f <$> act) db := by
  apply Quiet.map
  rwa [calm_map]

/-- An action on the store is quiet if it stores nothing where it reports no change. -/
theorem quiet_onStore {act : Action StoreError DurableStore α} {changed : α → Bool}
    (hok : ∀ a t, act db.store = .ok a t → changed a = false → t = db.store)
    (herror : ∀ e t, act db.store = .error e t → e.isLimit = true → t = db.store) :
    Quiet (calm changed) (onStore act) db := by
  unfold Quiet
  cases hrun : act db.store with
  | ok a t =>
    have hstore : onStore act db = .ok a { db with store := t } := within_ok hrun
    rw [outcome_of_ok hstore]
    exact fun hcalm => hok a t hrun ((Bool.not_eq_true' _).mp hcalm)
  | error e t =>
    have hstore : onStore act db = .error (.store e) { db with store := t } := within_error hrun
    rw [outcome_of_error hstore]
    exact fun hcalm => herror e t hrun hcalm

/-- A row that is not written is not stored. -/
theorem quiet_setRow (hclean : db.store.dirty = false) (s : Schema) (r : Record)
    (mode : WriteMode) : Quiet (calm WriteOutcome.updated) (setRow s r mode) db := by
  refine .bind (.ofExcept _) fun values t hvalues => ?_
  have ht : t.store = db.store := (Keeps.ofExcept (R := SameStore) _).ok hvalues
  rw [← ht] at hclean
  refine quiet_onStore (fun a u hrun hsame => ?_) fun e u hrun hlimit => ?_
  · have hcall : (StoreCall.update _ _ mode).run t.store = .ok (.written a) u := bind_ok hrun
    exact StoreCall.eq_of_unchangedAnswer hclean hcall nofun hsame
  · have hcall : (StoreCall.update _ _ mode).run t.store = .error e u := bind_error hrun
    exact StoreCall.eq_of_limit hcall hlimit

/-- A row that is not there is not removed. -/
theorem quiet_deleteRow (hclean : db.store.dirty = false) (s : Schema) (r : Record) :
    Quiet (calm id) (deleteRow s r) db := by
  refine .bind (.ofExcept _) fun key t hkey => ?_
  have ht : t.store = db.store := (Keeps.ofExcept (R := SameStore) _).ok hkey
  rw [← ht] at hclean
  refine quiet_onStore (fun a u hrun hsame => ?_) fun e u hrun hlimit => ?_
  · have hcall : (StoreCall.delete _).run t.store = .ok (.removed a) u := bind_ok hrun
    exact StoreCall.eq_of_unchangedAnswer hclean hcall nofun hsame
  · have hcall : (StoreCall.delete _).run t.store = .error e u := bind_error hrun
    exact StoreCall.eq_of_limit hcall hlimit

/-- Where nothing is pending, there is nothing to make durable. -/
theorem sameStore_flush (hclean : db.store.dirty = false) : Keeps SameStore flush db := by
  have hflush : DurableStore.flush db.store = .ok () db.store := by
    unfold DurableStore.flush
    rw [get_bind, hclean]
    rfl
  have hrun : onStore (Store.flush (κ := DurableStore)) db = .ok () db := within_ok hflush
  exact sameStore_guarded (.of_ok hrun (Std.Refl.refl db))

/-! ## New tables -/

/-- The action fails, if at all, because of the store. -/
def FailsInStore {κ : Type} (act : Action DatabaseError (Database κ) α) (db : Database κ) : Prop :=
  ∀ e t, act db = .error e t → ∃ x, e = .store x

/-- A record that is a row is refused by the store only. -/
theorem failsInStore_setRow {κ : Type} [Store κ] {db : Database κ} {s : Schema} {r : Record}
    {values : List Value} (hvalues : r.exactly s s.columns.length = .ok values)
    (mode : WriteMode) : FailsInStore (setRow s r mode) db := by
  intro e t hrun
  unfold setRow at hrun
  rw [hvalues, ofExcept_bind_ok] at hrun
  unfold onStore within at hrun
  split at hrun
  · cases hrun
  · cases hrun
    exact ⟨_, rfl⟩

/-- The schema of a new table is a row of the catalog, which only the store may refuse. -/
theorem failsInStore_enter {κ : Type} [Store κ] {db : Database κ} (previous : Option UInt32)
    (s : Schema) : FailsInStore (enter previous s) db := by
  have hvalues : (textRecord [("name", Bytes.ofText s.name), ("def", s.toJson.compact)]).exactly
      Schema.catalog Schema.catalog.columns.length =
        .ok [.bytes (Bytes.ofText s.name), .bytes s.toJson.compact] := rfl
  intro e t hrun
  unfold enter at hrun
  cases hset : setRow Schema.catalog
      (textRecord [("name", Bytes.ofText s.name), ("def", s.toJson.compact)]) .insert db with
  | ok o u =>
    rw [bind_ok (attempt_ok hset)] at hrun
    cases hrun
  | error e' u =>
    rw [bind_ok (attempt_error hset)] at hrun
    simp only at hrun
    rw [bind_ok (restoreCounter_eq previous u)] at hrun
    cases hrun
    exact failsInStore_setRow hvalues .insert _ _ hset

/-- A table that is not created for another reason than the store has left the store alone. -/
theorem quiet_addTable {κ : Type} [Store κ] {db : Database κ} (s : Schema) :
    Quiet refusedEarly (addTable s) db := by
  have hcheck : ∀ (s : Schema) (db : Database κ), Keeps SameStore (checkSchema s) db :=
    fun s db => (untouched_checkSchema s).mono fun _ h => h.store_eq
  unfold addTable
  refine .bind (hcheck _ _) fun _ _ _ => .guard (.guard (.bind (hcheck _ _) fun _ _ _ => ?_))
  refine .bind (sameStore_getRow _ _) fun row _ _ => .guard ?_
  refine .bind (untouched_readCounter.mono fun _ h => h.store_eq) fun previous u _ => .guard ?_
  -- from here on only the store can fail
  have hfails : FailsInStore (setRow Schema.settings
      (counterRecord (previous.getD Schema.firstPrefix + 1)) .upsert >>= fun _ =>
        enter previous { s.fillPrimary with
          keyPrefix := previous.getD Schema.firstPrefix }) u := by
    intro e t hrun
    rcases cases_of_bind_error hrun with hset | ⟨_, v, -, henter⟩
    · exact failsInStore_setRow rfl .upsert _ _ hset
    · exact failsInStore_enter previous _ _ _ henter
  intro hrefused
  unfold Action.outcome at hrefused
  split at hrefused
  · cases hrefused
  · next e t hrun =>
    obtain ⟨x, rfl⟩ := hfails e t hrun
    cases hrefused

end Durable

end Database

open Database

/-! ## Calls on tables -/

/-- Tells whether an answer reports a change. -/
def TableReply.changed : TableReply → Bool
  | created => true
  | fetched .. => false
  | written outcome => outcome.updated
  | told answer => answer

/-- The call reports that nothing has changed. The schema of a new table is refused by the store
only after the counter has moved, so that this is no such report. -/
def TableCall.reportsNoChange : TableCall → Except DatabaseError TableReply → Bool
  | get .., _ => true
  | create _, reply => refusedEarly reply
  | _, reply => calm TableReply.changed reply

section Tables

variable {db : Database DurableStore}

/-- Writing a row stores nothing where it reports no change. -/
theorem Database.quiet_set (hclean : db.store.dirty = false) (name : String) (r : Record)
    (mode : WriteMode) : Quiet (calm WriteOutcome.updated) (Database.set name r mode) db := by
  refine .guarded (.bind (sameStore_resolve _) fun s t hresolve => ?_)
  have ht : t.store = db.store := (sameStore_resolve _).ok hresolve
  exact quiet_setRow (ht ▸ hclean) s r mode

/-- Removing a row stores nothing where it reports no change. -/
theorem Database.quiet_delete (hclean : db.store.dirty = false) (name : String) (r : Record) :
    Quiet (calm id) (Database.delete name r) db := by
  refine .guarded (.bind (sameStore_resolve _) fun s t hresolve => ?_)
  have ht : t.store = db.store := (sameStore_resolve _).ok hresolve
  exact quiet_deleteRow (ht ▸ hclean) s r

/-- **A call on a table** that reports no change has stored nothing. -/
theorem TableCall.quiet_run (hclean : db.store.dirty = false) (call : TableCall) :
    Quiet call.reportsNoChange call.run db := by
  cases call with
  | create s =>
    refine Quiet.map _ ?_
    have hmap : (fun r : Except DatabaseError Unit =>
        reportsNoChange (create s) (r.map fun _ => .created)) = refusedEarly := by
      funext r
      cases r with
      | ok a => rfl
      | error e => cases e <;> rfl
    rw [hmap]
    exact .guarded (quiet_addTable s)
  | get name r =>
    refine .of_keeps (Keeps.map (sameStore_guarded ?_) _)
    exact (sameStore_resolve name).bind fun s _ _ => sameStore_getRow s r
  | set name r mode => exact .map_calm _ (quiet_set hclean name r mode)
  | insert name r => exact .map_calm _ (.map_calm _ (quiet_set hclean name r .insert))
  | update name r => exact .map_calm _ (.map_calm _ (quiet_set hclean name r .update))
  | upsert name r => exact .map_calm _ (.map_calm _ (quiet_set hclean name r .upsert))
  | delete name r => exact .map_calm _ (quiet_delete hclean name r)

end Tables

/-! ## Questions -/

namespace Inspection

variable {κ : Type} [Measured κ] {db : Database κ}

theorem sameStore_tablesReport : Keeps SameStore tablesReport db := by
  refine sameStore_tableNames.bind fun names _ _ => ?_
  exact (Keeps.mapM (fun _ _ => sameStore_schemaOf _) names).bind fun _ _ _ => .answer _

theorem sameStore_rowsReport (table : String) (limit : Option Nat) :
    Keeps SameStore (rowsReport table limit) db := by
  refine (sameStore_schemaOf table).bind fun s _ _ => ?_
  refine (sameStore_scanTable table).bind fun scan _ _ => ?_
  exact (sameStore_take _ scan).bind fun _ _ _ => .answer _

/-- **A question** changes nothing, whatever its answer. -/
theorem sameStore_run (question : Inspection) (format : ReportFormat) :
    Keeps SameStore (question.run format) db := by
  cases question with
  | tables => exact sameStore_tablesReport.bind fun _ _ _ => .answer _
  | schema table => exact (sameStore_schemaOf table).bind fun _ _ _ => .answer _
  | dump table limit => exact (sameStore_rowsReport table limit).bind fun _ _ _ => .answer _
  | stats => exact .read (.answer _)

end Inspection

/-! ## Clients -/

namespace Client

/-- The call reports that nothing has changed. What does not work on a table reads or flushes, and a
flush only writes what a call has reported before. -/
def Call.reportsNoChange : Call → Except DatabaseError Reply → Bool
  | .database (.table call), .ok (.database (.table a)) => call.reportsNoChange (.ok a)
  | .database (.table call), .error e => call.reportsNoChange (.error e)
  | .database (.table _), .ok _ => false
  | _, _ => true

variable {u v : Client DurableStore}

/-- A call that reports no change leaves the store, if nothing is pending. -/
theorem call_of_quiet (hclean : u.db.store.dirty = false) {c : Call}
    (h : c.reportsNoChange (u.call c).1 = true) : (u.call c).2.db.store = u.db.store := by
  cases c with
  | scan call =>
    unfold Client.call
    cases hscan : u.scan with
    | none => rfl
    | some s =>
      have hretires : u.db.Retires ((call.run s).outcome u.db).2 := call.retires_run s
      exact hretires.sameStore
  | database call =>
    have hkeeps : Keeps SameStore call.run u.db →
        (u.call (.database call)).2.db.store = u.db.store := fun h => h
    cases call with
    | schemaOf name => exact hkeeps ((sameStore_schemaOf name).map _)
    | tableNames => exact hkeeps (sameStore_tableNames.map _)
    | scan name range => exact hkeeps ((sameStore_scan name range).map _)
    | scanTable name => exact hkeeps ((sameStore_scanTable name).map _)
    | flush => exact hkeeps ((sameStore_flush hclean).map _)
    | close => exact hkeeps ((sameStore_flush hclean).map _)
    | table call =>
      have hquiet := call.quiet_run hclean
      have hrun : (DatabaseCall.table call).run.outcome u.db =
          ((call.run.outcome u.db).1.map .table, (call.run.outcome u.db).2) :=
        outcome_map _ _ _
      unfold Client.call at h ⊢
      simp only [hrun] at h ⊢
      refine hquiet ?_
      cases hreply : (call.run.outcome u.db).1 with
      | ok a =>
        rw [hreply] at h
        exact h
      | error e =>
        rw [hreply] at h
        exact h

/-- The use of a database by calls that report no change, and by questions. -/
inductive Quietly : Client DurableStore → Client DurableStore → Prop
  /-- Nothing is called. -/
  | refl (u : Client DurableStore) : Quietly u u
  /-- A call reports no change. -/
  | call {u v : Client DurableStore} (c : Call) (h : Quietly u v)
    (hreport : c.reportsNoChange (v.call c).1 = true) : Quietly u (v.call c).2
  /-- A question is asked, which ends an open scan. -/
  | ask {u v : Client DurableStore} (question : Inspection) (format : ReportFormat)
    (h : Quietly u v) : Quietly u ⟨((question.run format).outcome v.db).2, none⟩

/-- **A use without a change** leaves the store. -/
theorem Quietly.store_eq (h : u.Quietly v) (hclean : u.db.store.dirty = false) :
    v.db.store = u.db.store := by
  induction h with
  | refl => rfl
  | call c h hreport ih => exact (call_of_quiet (ih ▸ hclean) hreport).trans ih
  | @ask v question format h ih =>
    have hask : ((question.run format).outcome v.db).2.store = v.db.store :=
      question.sameStore_run format
    exact hask.trans ih

end Client

/-! ## Files -/

/-- The bytes under a path after a database was opened there, or could not be. -/
def Database.leftByOpen (options : DatabaseOptions) (status : FileStatus) : Bytes :=
  match options.check with
  | .error _ => status.bytes
  | .ok () => DurableStore.leftByOpen options.path status options.store

/-- The bytes under the path of its database file after a run of the program. -/
def CommandLine.Invocation.leaves (i : Invocation) (status : FileStatus) : Bytes :=
  match Database.open ⟨i.database, options⟩ status with
  | .error _ => Database.leftByOpen ⟨i.database, options⟩ status
  | .ok db => ((i.question.run i.format).outcome db).2.store.pages.disk.bytes

namespace Database

variable {options : DatabaseOptions} {status : FileStatus} {db : Database DurableStore}

/-- A database is opened as a new one on its store. -/
theorem exists_of_open (h : «open» options status = .ok db) : options.check = .ok () ∧
    ∃ s, DurableStore.open options.path status options.store = .ok s ∧ db = { store := s } := by
  unfold «open» at h
  cases hcheck : options.check with
  | error fault =>
    rw [hcheck] at h
    cases h
  | ok u =>
    rw [hcheck] at h
    cases hopen : DurableStore.open options.path status options.store with
    | error e =>
      rw [hopen] at h
      cases h
    | ok s =>
      rw [hopen] at h
      exact ⟨rfl, s, rfl, (Except.ok.inj h).symm⟩

/-- A database that was opened has the bytes that opening has left. -/
theorem leftByOpen_of_open (h : «open» options status = .ok db) :
    leftByOpen options status = db.store.pages.disk.bytes := by
  obtain ⟨hcheck, s, hopen, rfl⟩ := exists_of_open h
  unfold leftByOpen
  rw [hcheck]
  exact DurableStore.leftByOpen_of_open hopen

/-- Opening leaves the bytes that are there, unless there are none and it succeeds. -/
theorem leftByOpen_eq (h : status.bytes ≠ [] ∨ ∀ db, «open» options status ≠ .ok db) :
    leftByOpen options status = status.bytes := by
  unfold leftByOpen
  cases hcheck : options.check with
  | error fault => rfl
  | ok u =>
    refine DurableStore.leftByOpen_eq (h.imp_right fun hfails s hopen => ?_)
    refine hfails { store := s } ?_
    unfold «open»
    rw [hcheck]
    simp only [hopen]

end Database

/-- **The program writes nothing**, whatever its file is and whatever it is asked. -/
theorem CommandLine.Invocation.leaves_eq (i : Invocation) (status : FileStatus) :
    i.leaves status = status.bytes := by
  unfold leaves
  cases hopen : Database.open ⟨i.database, options⟩ status with
  | error e =>
    refine Database.leftByOpen_eq (.inr fun db h => ?_)
    rw [h] at hopen
    cases hopen
  | ok db =>
    have hask : ((i.question.run i.format).outcome db).2.store = db.store :=
      i.question.sameStore_run i.format
    simp only [hask]
    rw [← Database.leftByOpen_of_open hopen]
    obtain ⟨-, s, hstore, -⟩ := Database.exists_of_open hopen
    exact Database.leftByOpen_eq (.inl (DurableStore.bytes_ne_nil_of_open rfl hstore))

/-- **Nothing is written unless something has changed.** An opening that fails leaves the file, and
so does one that succeeds if the file holds a byte. After that all calls and questions that report
no change leave the store as it was opened, with its file, its pages, its free list and its
snapshot. The program leaves every file. -/
theorem file_kept (path : String) (status : FileStatus) (options : StoreOptions) :
    ((∀ s, DurableStore.open path status options ≠ .ok s) →
      DurableStore.leftByOpen path status options = status.bytes) ∧
    ((∀ db, Database.open ⟨path, options⟩ status ≠ .ok db) →
      Database.leftByOpen ⟨path, options⟩ status = status.bytes) ∧
    (∀ s, DurableStore.open path status options = .ok s →
      DurableStore.leftByOpen path status options = s.pages.disk.bytes ∧
      (status.bytes ≠ [] → s.pages.disk.bytes = status.bytes) ∧
      (∀ ops, List.Forall₂ (fun op reply => op.reportsNoChange reply = true) ops
          (replies DurableStore.operate ops s).1 →
        (replies DurableStore.operate ops s).2 = s) ∧
      ∀ u, Client.Quietly { db := { store := s } } u → u.db.store = s) ∧
    (∀ db, Database.open ⟨path, options⟩ status = .ok db →
      ∃ s, DurableStore.open path status options = .ok s ∧ db = { store := s }) ∧
    ∀ i : CommandLine.Invocation, i.leaves status = status.bytes := by
  refine ⟨fun h => DurableStore.leftByOpen_eq (.inr h), fun h => Database.leftByOpen_eq (.inr h),
    fun s hopen => ?_, fun db hopen => (Database.exists_of_open hopen).2, fun i => i.leaves_eq status⟩
  have hleft := DurableStore.leftByOpen_of_open hopen
  have hclean := (DurableStore.opened_of_open hopen).saved
  exact ⟨hleft, fun hbytes => hleft.symm.trans (DurableStore.leftByOpen_eq (.inl hbytes)),
    fun ops hops => DurableStore.replies_of_quiet hclean hops, fun u hu => hu.store_eq hclean⟩

/-! ## A file with a partial page -/

/-- A file with one entry and a free page, behind which a page has begun. -/
def partlyAppended : Bytes :=
  DurableStore.twiceWritten ++ [7, 7]

/-- Every way to change nothing in this file. -/
def idleRun : List StoreOperation :=
  [.get [1], .call (.update [1] [3] .upsert), .call (.update [1] [4] .insert),
    .call (.update [2] [4] .update), .call (.delete [2]), .call (.update [] [4] .upsert),
    .seek .above [0] [.up], .call .flush]

set_option maxRecDepth 2048 in
/-- The partial page stays where it is. A file of one byte is not opened, and left as it is. -/
theorem file_kept_of_partlyAppended : ∃ s db,
    DurableStore.open "data" (.present partlyAppended) { pageSize := 128 } = .ok s ∧
    s.pages.disk.bytes = partlyAppended ∧ (replies DurableStore.operate idleRun s).2 = s ∧
    Client.Quietly { db := { store := s } } { db } ∧ db.store = s ∧
    DurableStore.leftByOpen "data" (.present [7]) { pageSize := 128 } = [7] ∧
    Database.leftByOpen ⟨"data", { pageSize := 128 }⟩ (.present [7]) = [7] := by
  have hrun : Except.succeeds
      (DurableStore.open "data" (.present partlyAppended) { pageSize := 128 }) (fun s =>
        decide (List.Forall₂ (fun op reply => StoreOperation.reportsNoChange op reply = true)
          idleRun (replies DurableStore.operate idleRun s).1) &&
        Client.Call.reportsNoChange (.database (.table (.delete "t" ⟨[]⟩)))
          (Client.call { db := { store := s } } (.database (.table (.delete "t" ⟨[]⟩)))).1) =
        true := by
    decide +kernel
  have hfails : ∀ s, DurableStore.open "data" (.present [7]) { pageSize := 128 } ≠ .ok s :=
    Except.exists_error_iff.mp (Except.exists_of_not_succeeds (by decide +kernel))
  have hfails' : ∀ db, Database.open ⟨"data", { pageSize := 128 }⟩ (.present [7]) ≠ .ok db :=
    Except.exists_error_iff.mp (Except.exists_of_not_succeeds (by decide +kernel))
  obtain ⟨s, hopen, hrun⟩ := Except.exists_of_succeeds hrun
  rw [Bool.and_eq_true, decide_eq_true_iff] at hrun
  obtain ⟨hops, hcall⟩ := hrun
  have hquiet : Client.Quietly { db := { store := s } } _ :=
    .ask .stats .json (.call _ (.refl _) hcall)
  obtain ⟨-, -, hopened, -⟩ := file_kept "data" (.present partlyAppended) { pageSize := 128 }
  obtain ⟨-, hbytes, hstore, hclient⟩ := hopened s hopen
  have hsame := hclient _ hquiet
  obtain ⟨hleft, hleft', -⟩ := file_kept "data" (.present [7]) { pageSize := 128 }
  exact ⟨s, _, hopen, hbytes (by decide +kernel), hstore idleRun hops, hquiet, hsame,
    hleft hfails, hleft' hfails'⟩

set_option maxRecDepth 2048 in
/-- A file without bytes is filled when it is opened. -/
theorem filled_of_emptyFile : ¬∀ (path : String) (bytes : Bytes) (options : StoreOptions) s,
    DurableStore.open path (.present bytes) options = .ok s → s.pages.disk.bytes = bytes := by
  intro h
  have hrun : Except.succeeds (DurableStore.open "data" (.present []) { pageSize := 128 })
      (fun s => decide (s.pages.disk.bytes ≠ [])) = true := by
    decide +kernel
  obtain ⟨s, hopen, hfilled⟩ := Except.exists_of_succeeds hrun
  exact of_decide_eq_true hfilled (h "data" [] { pageSize := 128 } s hopen)

end PagedTables
