/-
# Careful clients

Any client may write into the built-in tables of a database, and so damage it. One who leaves them
consistent whenever they are written into never sees an error that shows damage, whatever else is
asked of the database.

* `DatabaseCall.benign_run` : a call of a healthy database;
* `Client.Careful` : calls that leave the built-in tables consistent wherever they write into them;
* `Client.never_fatal` : the answers to such calls.
-/
import PagedTables.Proofs.Tables.Healthy

namespace PagedTables

open PagedTables.Action

namespace Database

variable {db t : Database MemoryStore} {α : Type} {name : String} {s : Schema}

/-! ## Calls by the name of a table -/

/-- A database in use looks at nothing but what its action does. -/
theorem guarded_congr {act : Action DatabaseError (Database MemoryStore) α}
    (hdb : db.poison = none) (ht : t.poison = none) (h : act db = act t) :
    guarded act db = guarded act t := by
  cases hrun : act t with
  | ok a u => rw [guarded_ok hdb (h.trans hrun), guarded_ok ht hrun]
  | error e u =>
    cases hfatal : e.isFatal with
    | false => rw [guarded_error hdb (h.trans hrun) hfatal, guarded_error ht hrun hfatal]
    | true => rw [guarded_fatal hdb (h.trans hrun) hfatal, guarded_fatal ht hrun hfatal]

namespace Healthy

/-- A call that begins with the schema of a table does what it does where that is at hand. -/
theorem benign_guarded (h : db.Healthy) (name : String)
    {rest : Schema → Action DatabaseError (Database MemoryStore) α}
    {P : α → Database MemoryStore → Prop}
    (hrest : ∀ {t s}, t.Healthy → t.AtHand name s → Benign (rest s) t P) :
    Benign (guarded (resolve name >>= rest)) db P := by
  obtain ⟨t, ht, hresolve, hreads⟩ := h.exists_resolved name
  have hrun : (resolve name >>= rest) db = (resolve name >>= rest) t := bind_of_run_eq hresolve
  have hbenign := hreads.benign_bind ht fun s hs => hrest ht hs
  rw [Benign, guarded_congr h.poison ht.poison hrun]
  exact hbenign.guarded ht.poison

theorem benign_get (h : db.Healthy) (name : String) (r : Record) :
    Benign (Database.get name r) db fun _ t => t.Healthy :=
  h.benign_guarded name fun ht hs =>
    (((ht.hasTable hs).reads_getRow r).benign ht).mono fun _ _ h => h.1

/-- Writing a row does no harm, except to a built-in table. -/
theorem benign_set (h : db.Healthy) (name : String) (r : Record) (mode : WriteMode) :
    Benign (Database.set name r mode) db fun _ t => t.Kept (Schema.builtIn? name ≠ none) :=
  h.benign_guarded name fun ht hs => ht.benign_setRow hs r mode

theorem benign_delete (h : db.Healthy) (name : String) (r : Record) :
    Benign (Database.delete name r) db fun _ t => t.Kept (Schema.builtIn? name ≠ none) :=
  h.benign_guarded name fun ht hs => ht.benign_deleteRow hs r

/-- Where its schema is at hand, a name stands for a table that the store has. -/
theorem exists_resolves (h : db.Healthy) (name : String) :
    ∃ t : Database MemoryStore, t.Healthy ∧ resolve name db = resolve name t ∧ t.Resolves name := by
  obtain ⟨t, ht, hresolve, hreads⟩ := h.exists_resolved name
  exact ⟨t, ht, hresolve, hreads.imp fun _ _ hs => ht.hasTable hs⟩

theorem benign_schemaOf (h : db.Healthy) (name : String) :
    Benign (schemaOf name) db fun _ t => t.Healthy := by
  obtain ⟨t, ht, hresolve, hresolves⟩ := h.exists_resolves name
  rw [Benign, schemaOf, guarded_congr h.poison ht.poison hresolve]
  exact ((hresolves.reads_schemaOf ht.poison).benign ht).mono fun _ _ h => h.1

/-- Scanning a table does no harm, and the scan can be read. -/
theorem benign_scanTable (h : db.Healthy) (name : String) :
    Benign (scanTable name) db fun s t => t.Healthy ∧ s.Readable := by
  obtain ⟨t, ht, hresolve, hresolves⟩ := h.exists_resolves name
  have hrun : scanTable name db = scanTable name t :=
    bind_of_run_eq (guarded_congr h.poison ht.poison hresolve)
  rw [Benign, hrun]
  exact (hresolves.reads_scanTable ht.poison).benign ht

theorem benign_scan (h : db.Healthy) (name : String) (range : KeyRange) :
    Benign (scan name range) db fun s t => t.Healthy ∧ s.Readable := by
  cases hvalid : range.isValid with
  | false => exact .of_error (scan_of_invalid h.poison name hvalid) rfl h
  | true =>
    obtain ⟨t, ht, hresolve, hresolves⟩ := h.exists_resolves name
    have hprepare : prepareScan name range db = prepareScan name range t := by
      unfold prepareScan
      rw [if_pos hvalid]
      exact bind_of_run_eq hresolve
    have hrun : scan name range db = scan name range t :=
      bind_of_run_eq (guarded_congr h.poison ht.poison hprepare)
    rw [Benign, hrun]
    exact (hresolves.reads_scan ht.poison range).benign ht

theorem benign_tableNames (h : db.Healthy) : Benign tableNames db fun _ t => t.Healthy := by
  have hcatalog : db.AtHand Schema.catalogName Schema.catalog := rfl
  have hresolves : db.Resolves Schema.catalogName :=
    .of_ok (resolve_of_atHand hcatalog) (h.hasTable hcatalog)
  exact ((hresolves.reads_tableNames h.poison).benign h).mono fun _ _ h => h.1

theorem benign_flush (h : db.Healthy) : Benign flush db fun _ t => t.Healthy :=
  have hrun : onStore Store.flush db = .ok () db := rfl
  .of_ok (guarded_ok h.poison hrun) h

end Healthy

end Database

/-! ## Every call -/

/-- The call writes directly into a built-in table. -/
def TableCall.WritesBuiltIn : TableCall → Prop
  | create _ | get _ _ => False
  | call => Schema.builtIn? call.table ≠ none

/-- The call of a database is one on a table that writes directly into a built-in one. -/
def DatabaseCall.WritesBuiltIn : DatabaseCall → Prop
  | table call => call.WritesBuiltIn
  | _ => False

section Calls

open Database

variable {db : Database MemoryStore}

theorem TableCall.benign_run (h : db.Healthy) (call : TableCall) :
    Benign call.run db fun _ t => t.Kept call.WritesBuiltIn := by
  cases call with
  | create s =>
    exact (((h.benign_addTable s).guarded h.poison).mono fun _ t ht => ht.kept _).reword _
  | get name r => exact ((h.benign_get name r).mono fun _ t ht => ht.kept _).reword _
  | set name r mode => exact (h.benign_set name r mode).reword _
  | insert name r => exact ((h.benign_set name r .insert).reword _).reword _
  | update name r => exact ((h.benign_set name r .update).reword _).reword _
  | upsert name r => exact ((h.benign_set name r .upsert).reword _).reword _
  | delete name r => exact (h.benign_delete name r).reword _

/-- **A call of a healthy database** fails for reasons of its caller only. It leaves the database
healthy, unless it writes directly into a built-in table. A scan that it opens can be read. -/
theorem DatabaseCall.benign_run (h : db.Healthy) (call : DatabaseCall) :
    Benign call.run db fun reply t => t.Kept call.WritesBuiltIn ∧
      ∀ s, reply.scan? = some s → s.Readable := by
  cases call with
  | table call => exact (call.benign_run h).map _ fun _ _ ht => ⟨ht, nofun⟩
  | schemaOf name => exact (h.benign_schemaOf name).map _ fun _ _ ht => ⟨ht.kept _, nofun⟩
  | tableNames => exact h.benign_tableNames.map _ fun _ _ ht => ⟨ht.kept _, nofun⟩
  | scan name range =>
    refine (h.benign_scan name range).map _ fun s t ht => ⟨ht.1.kept _, ?_⟩
    rintro _ ⟨⟩
    exact ht.2
  | scanTable name =>
    refine (h.benign_scanTable name).map _ fun s t ht => ⟨ht.1.kept _, ?_⟩
    rintro _ ⟨⟩
    exact ht.2
  | flush => exact h.benign_flush.map _ fun _ _ ht => ⟨ht.kept _, nofun⟩
  | close => exact h.benign_flush.map _ fun _ _ ht => ⟨ht.kept _, nofun⟩

end Calls

/-! ## New databases -/

namespace Database

/-- A new database has the schemas of the built-in tables at hand. -/
theorem cases_of_atHand_new {o : StoreOptions} {name : String} {s : Schema}
    (h : AtHand { store := MemoryStore.ofOptions o } name s) :
    name = Schema.settingsName ∧ s = Schema.settings ∨
      name = Schema.catalogName ∧ s = Schema.catalog := by
  have h : (Schema.builtIn? name).or none = some s := h
  rw [Option.or_none, Schema.builtIn?] at h
  split at h
  · next hname => exact .inl ⟨hname, (Option.some.inj h).symm⟩
  · split at h
    · next hname => exact .inr ⟨hname, (Option.some.inj h).symm⟩
    · cases h

/-- An empty store has the rows of the built-in tables, of which there are none. -/
theorem backs_empty (o : StoreOptions) :
    Layout.builtIn.Backs { store := MemoryStore.ofOptions o } := by
  have hempty := Layout.describes_empty (m := MemoryStore.ofOptions o) rfl
  refine ⟨hempty.fits, hempty.holds, ?_, ?_⟩
  · intro name s hs
    rcases cases_of_atHand_new hs with ⟨-, rfl⟩ | ⟨-, rfl⟩
    · exact ⟨∅, rfl⟩
    · exact ⟨∅, rfl⟩
  · intro p t ht
    rcases Layout.set_eq_some_iff.mp ht with ⟨rfl, -⟩ | ⟨-, ht⟩
    · exact ⟨Schema.catalogName, Schema.catalog, rfl, UInt32.le_refl _⟩
    · rcases Layout.set_eq_some_iff.mp ht with ⟨rfl, -⟩ | ⟨-, ht⟩
      · exact ⟨Schema.settingsName, Schema.settings, rfl, UInt32.le_refl _⟩
      · cases ht

/-- **A new database** is healthy. -/
theorem healthy_new (o : StoreOptions) : Healthy { store := MemoryStore.ofOptions o } := by
  have hbacks := backs_empty o
  have hcounter := counter_of_rows hbacks.holds rfl
  -- the catalog is empty, so that only the built-in tables are found
  have hfree : ∀ {name}, (∀ s, ¬AtHand { store := MemoryStore.ofOptions o } name s) →
      found { store := MemoryStore.ofOptions o } name = .error (.tableNotFound name) :=
    fun hhand => found_of_rows hbacks.holds rfl hhand
  have hcases : ∀ {name s}, found { store := MemoryStore.ofOptions o } name = .ok s →
      AtHand { store := MemoryStore.ofOptions o } name s := by
    intro name s hs
    by_cases hhand : ∃ s', AtHand { store := MemoryStore.ofOptions o } name s'
    · obtain ⟨s', hs'⟩ := hhand
      obtain rfl := Except.ok.inj (hs.symm.trans (found_of_atHand hs'))
      exact hs'
    · rw [hfree (not_exists.mp hhand)] at hs
      cases hs
  refine ⟨⟨rfl, _, hbacks⟩, ⟨_, hcounter⟩, ?_, ?_, ?_, ?_⟩
  · intro name
    by_cases hhand : ∃ s, AtHand { store := MemoryStore.ofOptions o } name s
    · obtain ⟨s, hs⟩ := hhand
      exact .inl ⟨s, found_of_atHand hs⟩
    · exact .inr (hfree (not_exists.mp hhand))
  · intro name s hs
    rw [upcoming_of_counter hcounter]
    rcases cases_of_atHand_new (hcases hs) with ⟨-, rfl⟩ | ⟨-, rfl⟩
    · decide
    · decide
  · intro name name' s s' hs hs' heq
    rcases cases_of_atHand_new (hcases hs) with ⟨rfl, rfl⟩ | ⟨rfl, rfl⟩
    · rcases cases_of_atHand_new (hcases hs') with ⟨rfl, rfl⟩ | ⟨rfl, rfl⟩
      · rfl
      · cases heq
    · rcases cases_of_atHand_new (hcases hs') with ⟨rfl, rfl⟩ | ⟨rfl, rfl⟩
      · cases heq
      · rfl
  · intro name s hs hnot
    exact absurd (hcases hs) (hnot s)

end Database

/-! ## Clients -/

namespace Client

/-- The call writes directly into a built-in table. -/
def Call.WritesBuiltIn : Call → Prop
  | .database call => call.WritesBuiltIn
  | .scan _ => False

/-- Whenever a call writes directly into a built-in table, these tables are consistent after it. -/
def Careful : Client MemoryStore → List Call → Prop
  | _, [] => True
  | u, c :: calls =>
    (c.WritesBuiltIn → (u.call c).2.db.Consistent) ∧ Careful (u.call c).2 calls

variable {u : Client MemoryStore}

/-- A client of a healthy database, with nothing but rows before an open scan. -/
structure Healthy (u : Client MemoryStore) : Prop where
  db : u.db.Healthy
  readable : ∀ s, u.scan = some s → s.Readable

/-- **A call of a client** of a healthy database. -/
theorem Healthy.call (h : u.Healthy) (c : Call)
    (hcareful : c.WritesBuiltIn → (u.call c).2.db.Consistent) :
    (∀ e, (u.call c).1 = .error e → e.isFatal = false) ∧ (u.call c).2.Healthy := by
  cases c with
  | database call =>
    simp only [Client.call, Action.outcome] at hcareful ⊢
    rcases call.benign_run h.db with ⟨reply, t, hrun, hkept, hreadable⟩ | ⟨e, t, hrun, he, ht⟩
    · rw [hrun] at hcareful ⊢
      refine ⟨?_, hkept.healthy hcareful, hreadable⟩
      rintro _ ⟨⟩
    · rw [hrun] at hcareful ⊢
      refine ⟨?_, ht, ?_⟩
      · rintro _ ⟨⟩
        exact he
      · rintro _ ⟨⟩
  | scan call =>
    unfold Client.call
    cases hscan : u.scan with
    | none =>
      refine ⟨?_, h⟩
      rintro _ ⟨⟩
      rfl
    | some s =>
      have hs := h.readable s hscan
      simp only [Action.outcome]
      rcases call.reads_run hs u.db with ⟨reply, hrun, -⟩ | ⟨e, hrun, he⟩
      · rw [hrun]
        refine ⟨?_, h.db, fun t => call.readable_after hs⟩
        rintro _ ⟨⟩
      · rw [hrun]
        refine ⟨?_, h.db, fun t => call.readable_after hs⟩
        rintro _ ⟨⟩
        exact he

/-- **A run** of careful calls. -/
theorem Healthy.runAll (h : u.Healthy) {calls : List Call} (hcareful : u.Careful calls) :
    (∀ answer ∈ (u.runAll calls).1, ∀ e, answer.2 = .error e → e.isFatal = false) ∧
      (u.runAll calls).2.Healthy := by
  -- on the calls, from any healthy client: each leaves one, and what follows is careful, too
  induction calls generalizing u with
  | nil => exact ⟨fun _ hanswer => absurd hanswer List.not_mem_nil, h⟩
  | cons c calls ih =>
    obtain ⟨hreply, hnext⟩ := h.call c hcareful.1
    obtain ⟨hreplies, hlast⟩ := ih hnext hcareful.2
    rw [runAll_cons]
    refine ⟨?_, hlast⟩
    rintro answer hanswer
    rcases List.mem_cons.mp hanswer with rfl | hanswer
    · exact hreply
    · exact hreplies answer hanswer

/-- **Careful clients never see a fatal error.** Over every run of calls of a new database in
memory and of the scans opened on it, whatever names and records they are about, in which each call
that writes directly into a built-in table leaves these tables consistent, no call ends with a
fatal error, and the database is still in use after the run. -/
theorem never_fatal (o : StoreOptions) (calls : List Call)
    (hcareful : Careful { db := { store := MemoryStore.ofOptions o } } calls) :
    let run := runAll { db := { store := MemoryStore.ofOptions o } } calls
    (∀ answer ∈ run.1, ∀ e, answer.2 = .error e → e.isFatal = false) ∧
      run.2.db.poison = none := by
  have hnew : Healthy { db := { store := MemoryStore.ofOptions o } } :=
    ⟨Database.healthy_new o, nofun⟩
  obtain ⟨hreplies, hlast⟩ := hnew.runAll hcareful
  exact ⟨hreplies, hlast.db.poison⟩

/-- A table with a number as its key. -/
def numbers : Schema :=
  { name := "t", columns := ["id"], types := [.int64] }

/-- The counter is raised, and then a table is created, filled and read. -/
theorem never_fatal_of_raise :
    let u : Client MemoryStore := { db := { store := MemoryStore.ofOptions {} } }
    let calls : List Call := [
      .database (.table (.set Schema.settingsName (Database.counterRecord 150) .upsert)),
      .database (.table (.create numbers)),
      .database (.table (.upsert "t" ⟨[("id", .int64 (-1))]⟩)),
      .database (.scanTable "t"), .scan .collect]
    Careful u calls ∧
      (∀ answer ∈ (u.runAll calls).1, ∀ e, answer.2 = .error e → e.isFatal = false) ∧
      (u.runAll calls).2.db.poison = none := by
  intro u calls
  have hset : ((Database.set Schema.settingsName (Database.counterRecord 150) .upsert).outcome
      u.db).1 = .ok ⟨true, true⟩ := by
    decide +kernel
  obtain ⟨t, hrun⟩ : ∃ t, Database.set Schema.settingsName (Database.counterRecord 150) .upsert
      u.db = .ok ⟨true, true⟩ t := ⟨_, ok_of_outcome hset⟩
  have hraise : t.Consistent :=
    (Database.healthy_new {}).consistent_of_raise (n := 150) (by decide +kernel) hrun
  have hcall : (u.call (.database (.table (.set Schema.settingsName (Database.counterRecord 150)
      .upsert)))).2.db = t := by
    have hrun := map_ok DatabaseReply.table (map_ok TableReply.written hrun)
    simp only [Client.call, DatabaseCall.run, TableCall.run, Action.outcome, hrun]
  have hcareful : Careful u calls := by
    refine ⟨fun _ => ?_, False.elim, fun h => absurd rfl h, False.elim, False.elim, trivial⟩
    rw [hcall]
    exact hraise
  obtain ⟨hreplies, hpoison⟩ := never_fatal {} calls hcareful
  exact ⟨hcareful, hreplies, hpoison⟩

/-- **A careless client damages a database.** Writing a counter that is no number into the settings
is allowed, and then creating a table is a fatal error. -/
theorem fatal_of_overwritten_counter :
    ¬ ∀ calls : List Call,
      ∀ answer ∈ (runAll { db := { store := MemoryStore.empty } } calls).1,
        ∀ e, answer.2 = .error e → e.isFatal = false := by
  intro hall
  let careless : List Call := [
    .database (.table (.upsert Schema.settingsName
      (Database.textRecord [("key", Database.counterKey), ("val", Bytes.ofText "x")]))),
    .database (.table (.create numbers))]
  have hfatal : ((runAll { db := { store := MemoryStore.empty } } careless).1.any fun answer =>
      Except.fails answer.2 DatabaseError.isFatal) = true := by
    decide +kernel
  obtain ⟨answer, hanswer, hfails⟩ := List.any_eq_true.mp hfatal
  obtain ⟨e, he, hfatal⟩ := Except.exists_of_fails hfails
  rw [hall careless answer hanswer e he] at hfatal
  cases hfatal

end Client

end PagedTables
