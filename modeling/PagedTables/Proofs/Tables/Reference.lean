/-
# Tables as finite maps

What tables mean, apart from any store: a name stands for a table, and a table is a finite map
from the keys of its rows to their other columns. A call is answered from its record and from
these maps, and from limits on the bytes that a row may take.

* `Tables.answer` : the answer to a call, or why it is refused;
* `Tables.apply` : what a call does that is not refused;
* `Tables.after` : the tables after a call with its answer.
-/
import Mathlib
import PagedTables.Proofs.Action
import PagedTables.Proofs.Keys.Order
import PagedTables.Proofs.OrderedMap
import PagedTables.Table.Database

namespace PagedTables

/-! ## Sizes -/

/-- The number of bytes that a value takes. In a byte string zeros and ones take two each, and
one more byte ends it. -/
def Value.encodedSize : Value → Nat
  | .int64 _ => 8
  | .bytes b => b.length + b.countP (· ≤ 1) + 1

/-- The number of bytes that several values take. -/
def tupleSize (values : List Value) : Nat :=
  (values.map Value.encodedSize).sum

/-- The most bytes that the key of a row and its other columns may take. -/
structure Limits where
  /-- The most bytes of a key, the prefix of its table included. -/
  maxKeySize : Nat
  /-- The most bytes of the other columns. -/
  maxValueSize : Nat

/-- Refuses a row that takes too many bytes. -/
def Limits.check (limits : Limits) (key others : List Value) : Except StoreError Unit :=
  if limits.maxKeySize < prefixSize + tupleSize key then
    .error (.keyTooLarge (prefixSize + tupleSize key) limits.maxKeySize)
  else if limits.maxValueSize < tupleSize others then
    .error (.valueTooLarge (tupleSize others) limits.maxValueSize)
  else .ok ()

/-! ## One table -/

/-- Rows by their keys. -/
abbrev Rows := OrderedMap (List Value) (List Value)

/-- A table: its shape, and for the key of each row the other columns. -/
structure Table where
  /-- The schema. -/
  schema : Schema
  /-- The rows. -/
  rows : Rows := ∅

/-- What a write does where a row has, or has not, been before. -/
def WriteOutcome.of (mode : WriteMode) (new : List Value) : Option (List Value) → WriteOutcome
  | none => if mode = .update then .unchanged else ⟨true, true⟩
  | some old => if mode = .insert ∨ old = new then .unchanged else ⟨false, true⟩

namespace Table

/-- The row that a full record sets: its key, and its other columns. -/
def rowOf (t : Table) (r : Record) : Except DatabaseError (List Value × List Value) :=
  (r.exactly t.schema t.schema.columns.length).map fun values =>
    (values.take t.schema.keyCount, values.drop t.schema.keyCount)

/-- The key that a record sets, and nothing else. -/
def keyOf (t : Table) (r : Record) : Except DatabaseError (List Value) :=
  r.exactly t.schema t.schema.keyCount

/-- The full row under the key that is set in a record, whatever else is set there. -/
def fetch (t : Table) (r : Record) : Except DatabaseError (Option Record) :=
  (r.select t.schema t.schema.keyColumns).map fun key =>
    (t.rows.lookup key).map fun others => Record.ofRow t.schema (key ++ others)

/-- What a write of a full record does, if the row takes no more bytes than it may. -/
def outcome (limits : Limits) (t : Table) (r : Record) (mode : WriteMode) :
    Except DatabaseError WriteOutcome := do
  let (key, others) ← t.rowOf r
  (limits.check key others).mapError .store
  return .of mode others (t.rows.lookup key)

/-- Tells whether there is a row under the key that a record sets. -/
def has (t : Table) (r : Record) : Except DatabaseError Bool :=
  (t.keyOf r).map fun key => (t.rows.lookup key).isSome

/-- Stores a row. -/
def put (t : Table) (key others : List Value) : Table :=
  { t with rows := t.rows.insert key others }

/-- Removes a row. -/
def erase (t : Table) (key : List Value) : Table :=
  { t with rows := t.rows.erase key }

/-- The table after a write of a full record. -/
def write (t : Table) (r : Record) (mode : WriteMode) : Table :=
  match t.rowOf r with
  | .ok (key, others) =>
    if (WriteOutcome.of mode others (t.rows.lookup key)).updated then t.put key others else t
  | .error _ => t

/-- The table without the row whose key a record sets. -/
def remove (t : Table) (r : Record) : Table :=
  match t.keyOf r with
  | .ok key => t.erase key
  | .error _ => t

end Table

/-! ## Calls -/

/-- A call of a database. -/
inductive TableCall where
  /-- Creates a table. -/
  | create (s : Schema)
  /-- Looks a row up. -/
  | get (table : String) (r : Record)
  /-- Writes a row if the mode allows it. -/
  | set (table : String) (r : Record) (mode : WriteMode)
  /-- Writes a new row. -/
  | insert (table : String) (r : Record)
  /-- Replaces a row. -/
  | update (table : String) (r : Record)
  /-- Writes a row. -/
  | upsert (table : String) (r : Record)
  /-- Removes a row. -/
  | delete (table : String) (r : Record)

/-- What a call answers. -/
inductive TableReply where
  /-- The table is there. -/
  | created
  /-- Whether the row was found, and the record afterwards: the row, or what was asked with. -/
  | fetched (found : Bool) (r : Record)
  /-- What was written. -/
  | written (outcome : WriteOutcome)
  /-- Yes or no. -/
  | told (answer : Bool)
  deriving DecidableEq

namespace TableCall

/-- The name of the table that a call is about. -/
def table : TableCall → String
  | create s => s.name
  | get table _ | set table _ _ | insert table _ | update table _ | upsert table _
  | delete table _ => table

/-- The call does not touch rows of a built-in table. -/
def OnUserTable : TableCall → Prop
  | create _ => True
  | call => Schema.builtIn? call.table = none

/-- The number of tables that a call creates. -/
def creates : TableCall → Nat
  | create _ => 1
  | _ => 0

/-- Runs a call. -/
def run {κ : Type} [Store κ] : TableCall → Action DatabaseError (Database κ) TableReply
  | create s => (fun _ => .created) <$> Database.createTable s
  | get table r => (fun found => .fetched found.isSome (found.getD r)) <$> Database.get table r
  | set table r mode => .written <$> Database.set table r mode
  | insert table r => .told <$> Database.insert table r
  | update table r => .told <$> Database.update table r
  | upsert table r => .told <$> Database.upsert table r
  | delete table r => .told <$> Database.delete table r

end TableCall

/-! ## All tables -/

/-- Tables by their names. -/
abbrev Tables := OrderedMap String Table

/-- The schema of a table that exists under a prefix. -/
def Schema.placed (p : UInt32) (s : Schema) : Schema :=
  { s with keyPrefix := p }

namespace Tables

/-- The table of a name. -/
def find (tables : Tables) (name : String) : Except DatabaseError Table :=
  match tables.lookup name with
  | some t => .ok t
  | none => .error (.tableNotFound name)

/-- Refuses schemas that break a rule, names that are taken or reserved, and schemas that do not
fit into the built-in tables. The new table would have the prefix `next`. -/
def accept (limits : Limits) (next : Nat) (tables : Tables) (s : Schema) :
    Except DatabaseError Unit := do
  match s.check with
  | .error fault => throw (.badSchema s.name fault)
  | .ok () =>
    if s.name.startsWith "@" then throw (.tableExists s.name)
    if s.keyPrefix ≠ 0 then throw (.badSchema s.name .presetPrefix)
    if (tables.lookup s.name).isSome then throw (.tableExists s.name)
    if next = maxWord32 then throw (.badSchema s.name .prefixesExhausted)
    (limits.check [.bytes Database.counterKey]
      [.bytes (Bytes.ofNatLE 4 (next + 1))]).mapError .store
    (limits.check [.ofText s.name]
      [.bytes (s.fillPrimary.placed (UInt32.ofNat next)).toJson.compact]).mapError .store

/-- The full row under the key that is set in a record. -/
def fetch (tables : Tables) (name : String) (r : Record) : Except DatabaseError (Option Record) :=
  tables.find name >>= (·.fetch r)

/-- What a write of a full record does. -/
def outcome (limits : Limits) (tables : Tables) (name : String) (r : Record) (mode : WriteMode) :
    Except DatabaseError WriteOutcome :=
  tables.find name >>= (·.outcome limits r mode)

/-- Tells whether there is a row under the key that a record sets. -/
def has (tables : Tables) (name : String) (r : Record) : Except DatabaseError Bool :=
  tables.find name >>= (·.has r)

/-- The answer to a call, or why it is refused. -/
def answer (limits : Limits) (next : Nat) (tables : Tables) :
    TableCall → Except DatabaseError TableReply
  | .create s => (tables.accept limits next s).map fun _ => .created
  | .get name r => (tables.fetch name r).map fun found => .fetched found.isSome (found.getD r)
  | .set name r mode => (tables.outcome limits name r mode).map .written
  | .insert name r => ((tables.outcome limits name r .insert).map (·.updated)).map .told
  | .update name r => ((tables.outcome limits name r .update).map (·.updated)).map .told
  | .upsert name r => ((tables.outcome limits name r .upsert).map (·.updated)).map .told
  | .delete name r => (tables.has name r).map .told

/-- Changes the table of a name. -/
def change (tables : Tables) (name : String) (f : Table → Table) : Tables :=
  match tables.lookup name with
  | some t => tables.insert name (f t)
  | none => tables

/-- The tables after a call that is not refused. -/
def apply (tables : Tables) : TableCall → Tables
  | .create s => tables.insert s.name ⟨s.fillPrimary, ∅⟩
  | .get _ _ => tables
  | .set name r mode => tables.change name (·.write r mode)
  | .insert name r => tables.change name (·.write r .insert)
  | .update name r => tables.change name (·.write r .update)
  | .upsert name r => tables.change name (·.write r .upsert)
  | .delete name r => tables.change name (·.remove r)

/-- The tables after a call that has been answered; a refused call does nothing. -/
def after (tables : Tables) (call : TableCall) : Except DatabaseError TableReply → Tables
  | .ok _ => tables.apply call
  | .error _ => tables

/-! ## What the answers say -/

/-- What a call that is not refused tells about the tables, and does to them. -/
inductive Step (tables : Tables) : TableCall → TableReply → Tables → Prop
  /-- A table of a new name is created without rows. -/
  | created {s : Schema} (hnew : tables.lookup s.name = none) :
      Step tables (.create s) .created (tables.insert s.name ⟨s.fillPrimary, ∅⟩)
  /-- A row that is there replaces the record, with all columns in the order of the schema. -/
  | hit {name : String} {t : Table} {r : Record} {key others : List Value}
      (ht : tables.lookup name = some t) (hkey : r.select t.schema t.schema.keyColumns = .ok key)
      (hrow : t.rows.lookup key = some others) :
      Step tables (.get name r) (.fetched true (Record.ofRow t.schema (key ++ others))) tables
  /-- Otherwise the record stays. -/
  | miss {name : String} {t : Table} {r : Record} {key : List Value}
      (ht : tables.lookup name = some t) (hkey : r.select t.schema t.schema.keyColumns = .ok key)
      (hrow : t.rows.lookup key = none) : Step tables (.get name r) (.fetched false r) tables
  /-- A new row is stored, except by a mode that asks for an old one. -/
  | added {name : String} {t : Table} {r : Record} {mode : WriteMode} {key others : List Value}
      (ht : tables.lookup name = some t) (hrow : t.rowOf r = .ok (key, others))
      (hmode : mode ≠ .update) (habsent : t.rows.lookup key = none) :
      Step tables (.set name r mode) (.written ⟨true, true⟩)
        (tables.insert name (t.put key others))
  /-- Another row under the same key is replaced, except by a mode that asks for a new one. -/
  | replaced {name : String} {t : Table} {r : Record} {mode : WriteMode}
      {key others old : List Value} (ht : tables.lookup name = some t)
      (hrow : t.rowOf r = .ok (key, others)) (hmode : mode ≠ .insert)
      (hpresent : t.rows.lookup key = some old) (hne : old ≠ others) :
      Step tables (.set name r mode) (.written ⟨false, true⟩)
        (tables.insert name (t.put key others))
  /-- The mode asks for a row that is not there. -/
  | absent {name : String} {t : Table} {r : Record} {key others : List Value}
      (ht : tables.lookup name = some t) (hrow : t.rowOf r = .ok (key, others))
      (habsent : t.rows.lookup key = none) :
      Step tables (.set name r .update) (.written .unchanged) tables
  /-- The mode asks for a new row, but one is there. -/
  | taken {name : String} {t : Table} {r : Record} {key others old : List Value}
      (ht : tables.lookup name = some t) (hrow : t.rowOf r = .ok (key, others))
      (hpresent : t.rows.lookup key = some old) :
      Step tables (.set name r .insert) (.written .unchanged) tables
  /-- The row is there already. -/
  | same {name : String} {t : Table} {r : Record} {mode : WriteMode} {key others : List Value}
      (ht : tables.lookup name = some t) (hrow : t.rowOf r = .ok (key, others))
      (hpresent : t.rows.lookup key = some others) :
      Step tables (.set name r mode) (.written .unchanged) tables
  /-- The three writes tell whether the table has changed. -/
  | inserted {name : String} {r : Record} {o : WriteOutcome} {tables' : Tables}
      (h : Step tables (.set name r .insert) (.written o) tables') :
      Step tables (.insert name r) (.told o.updated) tables'
  | updated {name : String} {r : Record} {o : WriteOutcome} {tables' : Tables}
      (h : Step tables (.set name r .update) (.written o) tables') :
      Step tables (.update name r) (.told o.updated) tables'
  | upserted {name : String} {r : Record} {o : WriteOutcome} {tables' : Tables}
      (h : Step tables (.set name r .upsert) (.written o) tables') :
      Step tables (.upsert name r) (.told o.updated) tables'
  /-- A row is removed, if it is there. -/
  | deleted {name : String} {t : Table} {r : Record} {key : List Value}
      (ht : tables.lookup name = some t) (hkey : t.keyOf r = .ok key) :
      Step tables (.delete name r) (.told (t.rows.lookup key).isSome)
        (tables.insert name (t.erase key))

variable {limits : Limits} {next : Nat} {tables : Tables} {name : String} {t : Table}

/-- A table is found exactly if there is one of the name. -/
theorem find_eq_ok_iff : tables.find name = .ok t ↔ tables.lookup name = some t := by
  unfold find
  cases tables.lookup name <;> simp

/-- The tables after a write of a row. -/
theorem change_write {r : Record} {mode : WriteMode} {key others : List Value}
    (ht : tables.lookup name = some t) (hrow : t.rowOf r = .ok (key, others)) :
    tables.change name (·.write r mode) =
      if (WriteOutcome.of mode others (t.rows.lookup key)).updated then
        tables.insert name (t.put key others)
      else tables := by
  simp only [change, ht, Table.write, hrow]
  split
  · rfl
  · exact OrderedMap.insert_of_lookup ht

/-- A write that is not refused. -/
theorem step_set {r : Record} {mode : WriteMode} {o : WriteOutcome}
    (h : tables.outcome limits name r mode = .ok o) :
    Step tables (.set name r mode) (.written o) (tables.change name (·.write r mode)) := by
  obtain ⟨t, hfind, h⟩ := Except.bind_eq_ok_iff.mp h
  have ht := find_eq_ok_iff.mp hfind
  obtain ⟨⟨key, others⟩, hrow, h⟩ := Except.bind_eq_ok_iff.mp h
  obtain ⟨_, -, h⟩ := Except.bind_eq_ok_iff.mp h
  obtain rfl := Except.ok.inj h
  rw [change_write ht hrow]
  cases hlookup : t.rows.lookup key with
  | none =>
    cases mode with
    | update => exact .absent ht hrow hlookup
    | insert => exact .added ht hrow (by decide) hlookup
    | upsert => exact .added ht hrow (by decide) hlookup
  | some old =>
    by_cases hsame : old = others
    · subst hsame
      have hof : WriteOutcome.of mode old (some old) = .unchanged := by simp [WriteOutcome.of]
      rw [hof]
      exact .same ht hrow hlookup
    · cases mode with
      | insert => exact .taken ht hrow hlookup
      | update =>
        have hof : WriteOutcome.of .update others (some old) = ⟨false, true⟩ := by
          simp [WriteOutcome.of, hsame]
        rw [hof]
        exact .replaced ht hrow (by decide) hlookup hsame
      | upsert =>
        have hof : WriteOutcome.of .upsert others (some old) = ⟨false, true⟩ := by
          simp [WriteOutcome.of, hsame]
        rw [hof]
        exact .replaced ht hrow (by decide) hlookup hsame

/-- A lookup that is not refused. -/
theorem step_get {r : Record} {found : Option Record} (h : tables.fetch name r = .ok found) :
    Step tables (.get name r) (.fetched found.isSome (found.getD r)) tables := by
  obtain ⟨t, hfind, h⟩ := Except.bind_eq_ok_iff.mp h
  have ht := find_eq_ok_iff.mp hfind
  obtain ⟨key, hkey, rfl⟩ := Except.map_eq_ok_iff.mp h
  cases hlookup : t.rows.lookup key with
  | none => exact .miss ht hkey hlookup
  | some others => exact .hit ht hkey hlookup

/-- A removal that is not refused. -/
theorem step_delete {r : Record} {b : Bool} (h : tables.has name r = .ok b) :
    Step tables (.delete name r) (.told b) (tables.change name (·.remove r)) := by
  obtain ⟨t, hfind, h⟩ := Except.bind_eq_ok_iff.mp h
  have ht := find_eq_ok_iff.mp hfind
  obtain ⟨key, hkey, rfl⟩ := Except.map_eq_ok_iff.mp h
  simp only [change, ht, Table.remove, hkey]
  exact .deleted ht hkey

/-- A schema that is not refused has a new name. -/
theorem lookup_of_accept {s : Schema} (h : tables.accept limits next s = .ok ()) :
    tables.lookup s.name = none := by
  unfold accept at h
  split at h
  · cases h
  · simp only [Except.guard_eq_ok_iff] at h
    simpa using h.2.2.1

/-- **An answer tells** what the call finds in the tables, and does to them. -/
theorem step_of_answer {call : TableCall} {reply : TableReply}
    (h : tables.answer limits next call = .ok reply) :
    Step tables call reply (tables.apply call) := by
  cases call with
  | create s =>
    obtain ⟨_, haccept, rfl⟩ := Except.map_eq_ok_iff.mp h
    exact .created (lookup_of_accept haccept)
  | get name r =>
    obtain ⟨found, hfound, rfl⟩ := Except.map_eq_ok_iff.mp h
    exact step_get hfound
  | set name r mode =>
    obtain ⟨o, ho, rfl⟩ := Except.map_eq_ok_iff.mp h
    exact step_set ho
  | insert name r =>
    obtain ⟨b, hb, rfl⟩ := Except.map_eq_ok_iff.mp h
    obtain ⟨o, ho, rfl⟩ := Except.map_eq_ok_iff.mp hb
    exact .inserted (step_set ho)
  | update name r =>
    obtain ⟨b, hb, rfl⟩ := Except.map_eq_ok_iff.mp h
    obtain ⟨o, ho, rfl⟩ := Except.map_eq_ok_iff.mp hb
    exact .updated (step_set ho)
  | upsert name r =>
    obtain ⟨b, hb, rfl⟩ := Except.map_eq_ok_iff.mp h
    obtain ⟨o, ho, rfl⟩ := Except.map_eq_ok_iff.mp hb
    exact .upserted (step_set ho)
  | delete name r =>
    obtain ⟨b, hb, rfl⟩ := Except.map_eq_ok_iff.mp h
    exact step_delete hb

/-- Changing a table leaves all others. -/
theorem lookup_change_of_ne {other : String} (f : Table → Table) (h : other ≠ name) :
    (tables.change name f).lookup other = tables.lookup other := by
  unfold change
  cases tables.lookup name with
  | none => rfl
  | some t => exact OrderedMap.lookup_insert_of_ne tables (f t) h

/-- Changing a table leaves the number of tables. -/
theorem size_change (tables : Tables) (name : String) (f : Table → Table) :
    (tables.change name f).size = tables.size := by
  unfold change
  cases ht : tables.lookup name with
  | none => rfl
  | some t => exact OrderedMap.size_insert_of_lookup (f t) ht

/-- **A call leaves all tables** but the one that it is about. -/
theorem lookup_apply_of_ne {call : TableCall} (h : name ≠ call.table) :
    (tables.apply call).lookup name = tables.lookup name := by
  cases call with
  | create s => exact OrderedMap.lookup_insert_of_ne tables _ h
  | get name' r => rfl
  | set name' r mode => exact lookup_change_of_ne _ h
  | insert name' r => exact lookup_change_of_ne _ h
  | update name' r => exact lookup_change_of_ne _ h
  | upsert name' r => exact lookup_change_of_ne _ h
  | delete name' r => exact lookup_change_of_ne _ h

/-- Only a call that creates a table makes them more. -/
theorem size_apply {call : TableCall} {reply : TableReply}
    (h : tables.answer limits next call = .ok reply) :
    (tables.apply call).size = tables.size + call.creates := by
  cases call with
  | create s =>
    obtain ⟨_, haccept, -⟩ := Except.map_eq_ok_iff.mp h
    exact OrderedMap.size_insert _ (lookup_of_accept haccept)
  | get name r => rfl
  | set name r mode => exact size_change ..
  | insert name r => exact size_change ..
  | update name r => exact size_change ..
  | upsert name r => exact size_change ..
  | delete name r => exact size_change ..

end Tables

end PagedTables
