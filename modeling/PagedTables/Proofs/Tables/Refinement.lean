/-
# Databases are tables

A database in memory answers every sequence of calls as the tables do that the calls have made so
far, whatever the records, the schemas and the limits are.

* `TableCall.runAll`, `Tables.answerAll` : sequences of calls, in a database and in tables;
* `Database.Mirrors.call` : one call;
* `Database.mirrors_runAll` : a sequence of calls;
* `Database.refines_tables` : all that follows for the callers.
-/
import Mathlib
import PagedTables.Proofs.Tables.Calls

namespace PagedTables

/-! ## Sequences of calls -/

namespace TableCall

variable {κ : Type} [Store κ]

/-- Runs calls one after the other: what they answer, and the database afterwards. -/
def runAll : List TableCall → Database κ → List (Except DatabaseError TableReply) × Database κ
  | [], db => ([], db)
  | call :: calls, db =>
    let (reply, next) := Action.outcome call.run db
    let (replies, last) := runAll calls next
    (reply :: replies, last)

end TableCall

namespace Tables

/-- The prefix of the next table, when every table has taken one. -/
def nextPrefix (tables : Tables) : Nat :=
  Schema.firstPrefix.toNat + tables.size

/-- The answers to calls one after the other, and the tables afterwards. -/
def answerAll (limits : Limits) : List TableCall → Tables →
    List (Except DatabaseError TableReply) × Tables
  | [], tables => ([], tables)
  | call :: calls, tables =>
    let reply := tables.answer limits tables.nextPrefix call
    let (replies, last) := answerAll limits calls (tables.after call reply)
    (reply :: replies, last)

end Tables

namespace Database

variable {db : Database MemoryStore} {limits : Limits} {tables : Tables}

/-! ## One call -/

/-- A database in use that has certain tables, no prefix being lost. -/
structure Mirrors (db : Database MemoryStore) (limits : Limits) (tables : Tables) : Prop where
  poison : db.poison = none
  shows : db.Shows limits tables tables.nextPrefix

/-- **A call is answered** from the tables; one that is refused leaves the store as it is. -/
theorem Mirrors.call (h : db.Mirrors limits tables) {call : TableCall}
    (hcall : call.OnUserTable) :
    (Action.outcome call.run db).1 = tables.answer limits tables.nextPrefix call ∧
      (Action.outcome call.run db).2.Mirrors limits
        (tables.after call (tables.answer limits tables.nextPrefix call)) ∧
      ∀ e, (Action.outcome call.run db).1 = .error e →
        (Action.outcome call.run db).2.entries = db.entries := by
  have hends := call.ends MemoryStore.lawful h.shows h.poison hcall
  obtain ⟨hreply, hend⟩ := hends.outcome_eq
  refine ⟨hreply, ?_⟩
  rcases hend with ⟨reply, hanswer, hpoison, hshows⟩ | ⟨e, hanswer, hsame⟩
  · have hnext : Tables.nextPrefix (tables.apply call) = tables.nextPrefix + call.creates := by
      rw [Tables.nextPrefix, Tables.size_apply hanswer, ← Nat.add_assoc]
      rfl
    rw [← hnext] at hshows
    rw [hreply, hanswer]
    exact ⟨⟨hpoison.trans h.poison, hshows⟩, nofun⟩
  · rw [hanswer]
    refine ⟨⟨hsame.poison_eq.trans h.poison, hsame.shows h.shows⟩, ?_⟩
    intro _ _
    exact congrArg MemoryStore.entries hsame.contents_eq

/-- What is found in a table is what it has. -/
theorem Mirrors.get (h : db.Mirrors limits tables) {name : String}
    (hname : Schema.builtIn? name = none) (r : Record) :
    (Action.outcome (get name r) db).1 = tables.fetch name r := by
  have hends : Ends (fun _ => False) db limits tables tables tables.nextPrefix
      (tables.fetch name r) (guarded (resolve name >>= fun s => getRow s r) db) :=
    (fetch_ends h.shows hname r).guarded h.poison
  exact hends.outcome_eq.1

/-! ## A run -/

/-- **A sequence of calls** is answered from the tables. -/
theorem mirrors_runAll (h : db.Mirrors limits tables) {calls : List TableCall}
    (hcalls : ∀ call ∈ calls, call.OnUserTable) :
    (TableCall.runAll calls db).1 = (Tables.answerAll limits calls tables).1 ∧
      (TableCall.runAll calls db).2.Mirrors limits (Tables.answerAll limits calls tables).2 := by
  induction calls generalizing db tables with
  | nil => exact ⟨rfl, h⟩
  | cons call calls ih =>
    obtain ⟨hreply, hmirrors, -⟩ := h.call (hcalls call List.mem_cons_self)
    obtain ⟨hreplies, hlast⟩ := ih hmirrors fun c hc => hcalls c (List.mem_cons_of_mem _ hc)
    refine ⟨?_, hlast⟩
    rw [TableCall.runAll, Tables.answerAll]
    simp only [hreply, hreplies]

/-- An empty store has no tables. -/
theorem mirrors_empty {m : MemoryStore} (h : m.entries = ∅) :
    Mirrors { store := m } m.limits ∅ :=
  ⟨rfl, _, Layout.describes_empty h⟩

/-- **A database in memory is a map of tables.** Every sequence of calls is answered as the tables
are that the calls have made so far, and none of the calls ends the use of the database. At each
point, the answer says what the call finds in the tables and does to them; a call that is refused
leaves the tables and the store; and no call changes what is found in another table. -/
theorem refines_tables (m : MemoryStore) (hempty : m.entries = ∅) (calls : List TableCall)
    (hcalls : ∀ call ∈ calls, call.OnUserTable) :
    (TableCall.runAll calls { store := m }).1 = (Tables.answerAll m.limits calls ∅).1 ∧
    (TableCall.runAll calls { store := m }).2.poison = none ∧
    ∀ before call rest, calls = before ++ call :: rest →
      let db := (TableCall.runAll before { store := m }).2
      let tables := (Tables.answerAll m.limits before ∅).2
      let reply := (Action.outcome call.run db).1
      let db' := (Action.outcome call.run db).2
      let tables' := tables.after call reply
      reply = tables.answer m.limits tables.nextPrefix call ∧
      (∀ answer, reply = .ok answer → tables.Step call answer tables') ∧
      (∀ e, reply = .error e → tables' = tables ∧ db'.entries = db.entries) ∧
      ∀ name, name ≠ call.table → tables'.lookup name = tables.lookup name ∧
        (Schema.builtIn? name = none → ∀ r,
          (Action.outcome (get name r) db').1 = (Action.outcome (get name r) db).1) := by
  have hstart := mirrors_empty hempty
  obtain ⟨hreplies, hlast⟩ := mirrors_runAll hstart hcalls
  refine ⟨hreplies, hlast.poison, ?_⟩
  rintro before call rest rfl
  have hbefore : ∀ c ∈ before, c.OnUserTable := fun c hc => hcalls c (List.mem_append_left _ hc)
  have hcall : call.OnUserTable := hcalls call (by simp)
  obtain ⟨-, hmirrors⟩ := mirrors_runAll hstart hbefore
  obtain ⟨hreply, hmirrors', hkept⟩ := hmirrors.call hcall
  refine ⟨hreply, ?_, ?_, ?_⟩
  · intro answer hanswer
    rw [hanswer]
    exact Tables.step_of_answer (hreply.symm.trans hanswer)
  · intro e he
    rw [he]
    exact ⟨rfl, hkept e he⟩
  · intro name hname
    have hlookup : ((Tables.answerAll m.limits before ∅).2.after call
        (Action.outcome call.run (TableCall.runAll before { store := m }).2).1).lookup name =
          (Tables.answerAll m.limits before ∅).2.lookup name := by
      cases (Action.outcome call.run (TableCall.runAll before { store := m }).2).1 with
      | error e => rfl
      | ok answer => exact Tables.lookup_apply_of_ne hname
    refine ⟨hlookup, ?_⟩
    intro huser r
    rw [hreply] at hlookup
    rw [hmirrors'.get huser, hmirrors.get huser, Tables.fetch, Tables.fetch, Tables.find,
      Tables.find, hlookup]

/-- A table of numbered notes. -/
def notes : Schema :=
  (({ name := "notes" } : Schema).column "id" .int64).column "text" .bytes

/-- A note. -/
def note (id : Int64) (text : Bytes) : Record :=
  ⟨[("id", .int64 id), ("text", .bytes text)]⟩

/-- A second note of the same number is not inserted, and the first one is found. -/
theorem refines_tables_of_second_insert :
    (TableCall.runAll [.create notes, .insert "notes" (note 7 [0]), .insert "notes" (note 7 [1]),
        .delete "letters" (note 7 []), .get "notes" ⟨[("id", .int64 7)]⟩]
        ({ store := MemoryStore.empty } : Database MemoryStore)).1 =
      [.ok .created, .ok (.told true), .ok (.told false), .error (.tableNotFound "letters"),
        .ok (.fetched true (note 7 [0]))] := by
  refine (refines_tables MemoryStore.empty rfl _ ?_).1.trans ?_
  · simp [TableCall.OnUserTable, TableCall.table, Schema.builtIn?, Schema.settingsName,
      Schema.catalogName]
  · decide +kernel

end Database

end PagedTables
