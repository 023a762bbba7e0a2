/-
# Tables that clients have created

Over any run of calls that do not write into the built-in tables, a database lists exactly the
tables that the run has created, each with the definition that was given for it, its prefix, and
the primary index if no index was declared. A fresh database on the same store lists the same, as
the schemas that it has to read are those that the other one may have had at hand.

* `Client.Registered.call` : one call of a client whose database has its schemas at hand;
* `Client.Recorded` : runs, with the definitions of the tables that they have created;
* `Client.Recorded.exists_registered` : every such database is beside one with its schemas at hand;
* `Client.Recorded.catalog_exact` : what it lists, and what a fresh database does.
-/
import Mathlib
import PagedTables.Proofs.Tables.Registration

namespace PagedTables

open PagedTables.Action

variable {κ : Type} [Store κ] {Fails : StoreError → Prop} {schemas : List Schema} {next : Nat}

/-! ## Databases beside each other -/

namespace Database

variable {db g : Database κ}

/-- The prefix that the next table takes. -/
def upcoming (db : Database κ) : UInt32 :=
  (Action.outcome readCounter db).1.toOption.join.getD Schema.firstPrefix

/-- The prefix that the next table takes is the one that the catalog tells. -/
theorem Registered.upcoming_eq (h : db.Registered schemas next) :
    db.upcoming = UInt32.ofNat next := by
  obtain ⟨tables, l, hl⟩ := h.exists_describes
  rw [upcoming, Action.outcome, readCounter_eq hl]
  exact storedCounter_getD next

variable {R : κ → κ → Prop}

/-- Databases side by side give the next table the same prefix. -/
theorem Beside.upcoming_eq (hR : Store.Agrees R) (h : Beside R db g) :
    db.upcoming = g.upcoming := by
  have hread : Follows (fun _ => True) R readCounter readCounter := follows_readCounter hR
  rw [upcoming, upcoming, ((hread db g trivial).2 h).outcome.1]

/-- A database lists what one beside it does that has its schemas at hand. -/
theorem Beside.lists (hR : Store.Agrees R) (h : Beside R db g) (hg : g.Registered schemas next)
    (hpoison : g.poison = none) : db.Lists schemas := by
  have hinformed : Informed R db g := ⟨h, hg.catalogued⟩
  have hnames : (Action.outcome tableNames db).1 = (Action.outcome tableNames g).1 :=
    ((@follows_tableNames κ κ (fun _ => True) R _ _ hR db g trivial).2 hinformed).outcome.1
  have hschema : ∀ name, (Action.outcome (schemaOf name) db).1 =
      (Action.outcome (schemaOf name) g).1 := fun name =>
    ((@follows_schemaOf κ κ (fun _ => True) R _ _ hR name db g trivial).2 hinformed).outcome.1
  have hlists := hg.lists hpoison
  refine ⟨?_, ?_, ?_⟩
  · rw [hnames]
    exact hlists.names
  · intro s hs
    rw [hschema]
    exact hlists.schema s hs
  · intro name hbuiltIn hname
    rw [hschema]
    exact hlists.unknown name hbuiltIn hname

end Database

/-! ## Calls of a client -/

omit [Store κ] in
theorem ScanCall.reads_run {s : Scan} (h : s.Readable) (call : ScanCall) (db : Database κ) :
    Database.Reads (call.run s) db fun _ => True := by
  cases call with
  | isValid => exact .of_ok rfl trivial
  | next => exact (Database.reads_next h).map _ fun _ _ => trivial
  | row => exact (Database.reads_fetch h).map _ fun _ _ => trivial
  | collect => exact (Database.reads_take _ h).map _ fun _ _ => trivial

/-- A scan of rows stays one. -/
theorem ScanCall.readable_after {s t : Scan} (h : s.Readable) {call : ScanCall}
    (ht : call.after s = some t) : t.Readable := by
  cases call with
  | isValid => exact Option.some.inj ht ▸ h
  | row => exact Option.some.inj ht ▸ h
  | collect => cases ht
  | next =>
    unfold ScanCall.after at ht
    cases hnext : s.next with
    | ok t' =>
      rw [hnext] at ht
      exact Option.some.inj ht ▸ h.next hnext
    | error e =>
      rw [hnext] at ht
      exact Option.some.inj ht ▸ h

namespace Client

/-- The call writes into no built-in table, and a new schema counts its key columns in a word. -/
def Call.Proper : Call → Prop
  | .database call => call.Proper
  | .scan _ => True

/-- The schemas of the tables that a call creates, by what it is answered, if the next table takes
a certain prefix. -/
def Call.enters (p : UInt32) : Call → Except DatabaseError Reply → List Schema
  | .database call, .ok _ => call.enters p
  | _, _ => []

variable {u : Client κ}

/-- A client whose database has its schemas at hand, with nothing but rows before an open scan. -/
structure Registered (u : Client κ) (schemas : List Schema) (next : Nat) : Prop where
  db : u.db.Registered schemas next
  readable : ∀ s, u.scan = some s → s.Readable

/-- No scan is open. -/
theorem Registered.of_db {db : Database κ} (h : db.Registered schemas next) :
    Registered { db := db } schemas next where
  db := h
  readable := by
    intro s hs
    cases hs

/-- **A call of a client** registers the schemas of the tables that it creates. -/
theorem Registered.call (hfaithful : Store.Faithful κ Fails) (h : u.Registered schemas next)
    {c : Call} (hc : c.Proper) :
    ∃ next', (u.call c).2.Registered (schemas ++ c.enters (UInt32.ofNat next) (u.call c).1) next' ∧
      ((∀ cause, ¬Fails cause) → u.db.poison = none → (u.call c).2.db.poison = none ∧
        next' = next + (c.enters (UInt32.ofNat next) (u.call c).1).length) := by
  cases c with
  | database call =>
    cases hpoison : u.db.poison with
    | some reason =>
      rw [database_of_poison hpoison]
      refine ⟨next, .of_db ?_, fun _ hnone => by cases hnone⟩
      simp only [Call.enters, List.append_nil]
      exact h.db
    | none =>
      have hadvances := call.advances hfaithful h.db hpoison hc
      simp only [Client.call, Action.outcome]
      cases hrun : call.run u.db with
      | ok reply t =>
        rw [hrun] at hadvances
        cases hadvances with
        | done htpoison ht =>
          exact ⟨_, ⟨ht, fun s hs => call.readable_of_run h.db.resolves hpoison hrun hs⟩,
            fun _ _ => ⟨htpoison, rfl⟩⟩
      | error e t =>
        rw [hrun] at hadvances
        cases hadvances with
        | failed ht hkept =>
          refine ⟨_, .of_db ?_, fun hnone _ => (hkept hnone).2⟩
          simp only [Except.map, Call.enters, List.append_nil]
          exact ht
  | scan call =>
    simp only [Call.enters, List.append_nil]
    unfold Client.call
    cases hscan : u.scan with
    | none =>
      refine ⟨next, ⟨h.db, ?_⟩, fun _ hpoison => ⟨hpoison, rfl⟩⟩
      intro s hs
      rw [hscan] at hs
      cases hs
    | some s =>
      have hs := h.readable s hscan
      have hsame : u.db = ((call.run s).outcome u.db).2 :=
        Database.Reads.keeps (R := Eq) (call.reads_run hs u.db)
      simp only [← hsame]
      exact ⟨next, ⟨h.db, fun t ht => call.readable_after hs ht⟩,
        fun _ hpoison => ⟨hpoison, rfl⟩⟩

/-- A client on the same store who may have to read schemas is answered alike. -/
theorem Registered.beside_call {g : Client κ} (h : g.Registered schemas next)
    (hu : u.Beside Eq g) (c : Call) :
    (u.call c).1 = (g.call c).1 ∧ (u.call c).2.Beside Eq (g.call c).2 := by
  obtain ⟨-, hcall⟩ : True ∧ (u.Beside Eq g → g.db.Catalogued →
      (u.call c).1 = (g.call c).1 ∧ (u.call c).2.Beside Eq (g.call c).2) :=
    follows_call Store.follows_self (fun _ => follows_self _) trivial
  exact hcall hu h.db.catalogued

/-! ## Runs -/

/-- What a run from an empty store leads to, with the definitions of the tables that it has
created, in that order: as they were given, with their prefixes, and with the primary index if no
index was declared. -/
inductive Recorded : Client κ → List Schema → Prop
  /-- A database on an empty store. -/
  | new (s : κ) (hempty : (Store.contents s).entries = ∅) : Recorded { db := { store := s } } []
  /-- A further call. -/
  | call {u : Client κ} {created : List Schema} (h : Recorded u created) (c : Call)
      (hc : c.Proper) : Recorded (u.call c).2 (created ++ c.enters u.db.upcoming (u.call c).1)
  /-- A fresh database on a store with the same contents. -/
  | renew {u : Client κ} {created : List Schema} (h : Recorded u created) (s : κ)
      (hs : Store.contents s = Store.contents u.db.store) :
      Recorded { db := { store := s } } created

variable {created : List Schema}

/-- **A run** leads to a database beside one that has its schemas at hand. -/
theorem Recorded.exists_registered (hfaithful : Store.Faithful κ Fails) (h : Recorded u created) :
    ∃ (g : Client κ) (next : Nat), u.Beside Eq g ∧ g.Registered created next ∧
      ((∀ cause, ¬Fails cause) → g.db.poison = none ∧
        next = Schema.firstPrefix.toNat + created.length) := by
  induction h with
  | new s hempty =>
    exact ⟨{ db := { store := s } }, _, beside_self _,
      .of_db ⟨rfl, .empty hempty⟩, fun _ => ⟨rfl, rfl⟩⟩
  | @call u created _ c hc ih =>
    obtain ⟨g, next, hbeside, hg, hkept⟩ := ih
    obtain ⟨hreply, hbeside'⟩ := hg.beside_call hbeside c
    obtain ⟨next', hg', hkept'⟩ := hg.call hfaithful hc
    rw [hbeside.db.upcoming_eq Store.follows_self.agrees, hg.db.upcoming_eq, hreply]
    refine ⟨_, next', hbeside', hg', fun hnone => ?_⟩
    obtain ⟨hpoison, hnext⟩ := hkept hnone
    obtain ⟨hpoison', hnext'⟩ := hkept' hnone hpoison
    refine ⟨hpoison', ?_⟩
    rw [hnext', hnext, List.length_append, Nat.add_assoc]
  | @renew u created _ s hs ih =>
    obtain ⟨g, next, hbeside, hg, hkept⟩ := ih
    refine ⟨{ db := { store := s, cache := g.db.cache } }, next,
      ⟨Database.beside_fresh rfl rfl, rfl⟩,
      .of_db (hg.db.of_contents ?_ rfl), fun hnone => ⟨rfl, (hkept hnone).2⟩⟩
    rw [hs, hbeside.db.store]

/-- **The catalog is exact.** Over every run from an empty store that does not write into the
built-in tables, whether calls fail or not, the prefixes of the tables that it has created ascend
in the order in which they were created. A database that is still in use after the run, whatever
schemas it has at hand, and every fresh database on a store with the same entries give the names of
these tables, each once and in the order of their bytes, and under each name exactly its
definition; all other names that are not built in stand for no table. On a store that does not fail
the database is still in use. -/
theorem Recorded.catalog_exact (hfaithful : Store.Faithful κ Fails) (h : Recorded u created) :
    ((∀ cause, ¬Fails cause) → u.db.poison = none) ∧
    (∀ s ∈ created, Schema.firstPrefix ≤ s.keyPrefix) ∧
    created.Pairwise (fun s t => s.keyPrefix < t.keyPrefix) ∧
    (u.db.poison = none → u.db.Lists created) ∧
    ∀ s : κ, (Store.contents s).entries = (Store.contents u.db.store).entries →
      Database.Lists { store := s } created := by
  obtain ⟨g, next, hbeside, hg, hkept⟩ := h.exists_registered hfaithful
  have hregisters := hg.db.registers
  refine ⟨fun hnone => hbeside.db.poison_eq.trans (hkept hnone).1,
    fun s hs => (hregisters.storable s hs).first_le, hregisters.ascending, fun hpoison => ?_,
    fun s hs => ?_⟩
  · exact hbeside.db.lists Store.follows_self.agrees hg.db (hbeside.db.poison_eq.symm.trans hpoison)
  · -- a fresh database is beside one with the same entries that is in use
    have hfresh : Database.Beside
        (fun s s' : κ => (Store.contents s).entries = (Store.contents s').entries)
        { store := s } { g.db with poison := none } :=
      Database.beside_fresh (by rw [hs, hbeside.db.store]) rfl
    exact hfresh.lists (fun _ _ => id) (hg.db.of_contents rfl rfl) rfl

/-- A table with a name that JSON has to escape, and with an index of its own. -/
def quoted : Schema :=
  (((({ name := "\"\u00e9\n" } : Schema).column "\\" .bytes).column "b" .int64).keys 2).index "by b"
    ["b"]

set_option maxRecDepth 2048 in
/-- Two tables are created, and one of them in vain a second time. -/
theorem catalog_exact_of_quoted :
    let u : Client MemoryStore := { db := { store := MemoryStore.empty } }
    let u := (u.call (.database (.table (.create Database.notes)))).2
    let u := (u.call (.database (.table (.create quoted)))).2
    let u := (u.call (.database (.table (.create Database.notes)))).2
    u.db.Lists [Database.notes.fillPrimary.placed 100, quoted.placed 101] ∧
      Database.Lists { store := u.db.store }
        [Database.notes.fillPrimary.placed 100, quoted.placed 101] := by
  have hnotes : Call.Proper (.database (.table (.create Database.notes))) := by
    show Database.notes.keyCount ≤ maxWord64
    decide
  have hquoted : Call.Proper (.database (.table (.create quoted))) := by
    show quoted.keyCount ≤ maxWord64
    decide
  have hrecorded := (((Recorded.new MemoryStore.empty rfl).call _ hnotes).call _ hquoted).call _
    hnotes
  generalize hcreated : _ ++ Call.enters _ _ _ = created at hrecorded
  have heq : created = [Database.notes.fillPrimary.placed 100, quoted.placed 101] := by
    rw [← hcreated]
    decide +kernel
  rw [heq] at hrecorded
  obtain ⟨hpoison, -, -, hlists, hfresh⟩ := hrecorded.catalog_exact MemoryStore.faithful
  exact ⟨hlists (hpoison fun _ => id), hfresh _ rfl⟩

end Client

end PagedTables
