/-
# Calls that read

Looking rows and schemas up, and scanning, leaves a database that has its schemas at hand exactly
as it is. Such a call can only fail for a reason of its caller: all rows of a table can be decoded,
and so can all that a scan passes.

* `Database.Reads` : an action that changes nothing, with what is known of its answer;
* `Scan.Readable` : a scan over rows that can be decoded;
* `Database.Resolves.reads_get`, `Database.Resolves.reads_scan` : calls.
-/
import Mathlib
import PagedTables.Proofs.Tables.Range
import PagedTables.Proofs.Tables.Registry

namespace PagedTables

open PagedTables.Action

/-! ## Scans -/

namespace Scan

variable {s t : Scan}

/-- All that a scan still passes can be decoded. -/
def Readable (s : Scan) : Prop :=
  ∃ rest, s.Ahead rest ∧ ∀ e ∈ s.untilStop rest, ∃ values, decodeRow s.schema e = .ok values

/-- A scan between two bounds is readable if all entries between them are. -/
theorem readable_start {entries : Entries} {schema : Schema} {startBound stopBound : Comparison}
    {startKey stop : Bytes} (hfacing : (startBound.ascends != stopBound.ascends) = true)
    (h : ∀ e ∈ between entries startBound startKey stopBound stop,
      ∃ values, decodeRow schema e = .ok values) :
    (Scan.start entries schema startBound startKey stopBound stop).Readable := by
  refine ⟨_, ahead_start, ?_⟩
  rw [untilStop_start hfacing]
  exact h

/-- A move leaves less to read. -/
theorem Readable.next (h : s.Readable) (hnext : s.next = .ok t) : t.Readable := by
  obtain ⟨rest, hahead, hdecode⟩ := h
  have hvalid : s.isValid = true := by
    unfold Scan.next at hnext
    split at hnext
    · assumption
    · cases hnext
  rw [isValid, hahead.entry?_eq] at hvalid
  cases rest with
  | nil => cases hvalid
  | cons e rest =>
    rw [untilStop, List.takeWhile_cons] at hvalid hdecode
    split at hvalid
    · next hstop =>
      rw [if_pos hstop] at hdecode
      obtain ⟨t', hnext', hahead', hschema, hbound, hstopKey⟩ := hahead.next hstop
      obtain rfl := Except.ok.inj (hnext.symm.trans hnext')
      refine ⟨rest, hahead', ?_⟩
      rw [untilStop, hschema, hbound, hstopKey]
      exact fun e he => hdecode e (List.mem_cons_of_mem _ he)
    · cases hvalid

/-- The entry that a readable scan stands on. -/
theorem Readable.exists_values (h : s.Readable) {e : Entry} (he : s.entry? = some e) :
    ∃ values, decodeRow s.schema e = .ok values := by
  obtain ⟨rest, hahead, hdecode⟩ := h
  rw [hahead.entry?_eq] at he
  exact hdecode e (List.mem_of_mem_head? he)

end Scan

namespace Database

variable {κ : Type} {α β : Type} {db : Database κ}

/-! ## Actions that change nothing -/

/-- The action leaves the database as it is. It answers with a certain property, or it fails for
a reason of its caller. -/
def Reads (act : Action DatabaseError (Database κ) α) (db : Database κ) (P : α → Prop) : Prop :=
  (∃ a, act db = .ok a db ∧ P a) ∨ ∃ e, act db = .error e db ∧ e.isFatal = false

namespace Reads

variable {act : Action DatabaseError (Database κ) α} {P : α → Prop} {Q : β → Prop}
variable {rest : α → Action DatabaseError (Database κ) β}

theorem of_ok {a : α} (hrun : act db = .ok a db) (h : P a) : Reads act db P :=
  .inl ⟨a, hrun, h⟩

theorem of_error {e : DatabaseError} (hrun : act db = .error e db) (he : e.isFatal = false) :
    Reads act db P :=
  .inr ⟨e, hrun, he⟩

/-- What is known of an answer. -/
theorem holds {a : α} {t : Database κ} (h : Reads act db P) (hrun : act db = .ok a t) : P a := by
  rcases h with ⟨b, hrun', hb⟩ | ⟨e, hrun', -⟩
  · rw [hrun] at hrun'
    injection hrun' with hab
    exact hab ▸ hb
  · rw [hrun] at hrun'
    cases hrun'

theorem ofExcept {r : Except DatabaseError α} (hok : ∀ a, r = .ok a → P a)
    (herror : ∀ e, r = .error e → e.isFatal = false) : Reads (Action.ofExcept r) db P := by
  cases r with
  | ok a => exact .of_ok rfl (hok a rfl)
  | error e => exact .of_error rfl (herror e rfl)

/-- More is known of an answer that is given. -/
theorem imp {Q : α → Prop} (h : Reads act db P) (hPQ : ∀ a, act db = .ok a db → P a → Q a) :
    Reads act db Q := by
  rcases h with ⟨a, hrun, ha⟩ | ⟨e, hrun, he⟩
  · exact .of_ok hrun (hPQ a hrun ha)
  · exact .of_error hrun he

theorem bind (h : Reads act db P) (hrest : ∀ a, P a → Reads (rest a) db Q) :
    Reads (act >>= rest) db Q := by
  rcases h with ⟨a, hrun, ha⟩ | ⟨e, hrun, he⟩
  · unfold Reads
    rw [bind_ok hrun]
    exact hrest a ha
  · exact .of_error (bind_error hrun) he

theorem map (h : Reads act db P) (f : α → β) (hf : ∀ a, P a → Q (f a)) :
    Reads (f <$> act) db Q := by
  rw [map_eq_pure_bind]
  exact h.bind fun a ha => .of_ok rfl (hf a ha)

theorem guarded (hpoison : db.poison = none) (h : Reads act db P) :
    Reads (Database.guarded act) db P := by
  rcases h with ⟨a, hrun, ha⟩ | ⟨e, hrun, he⟩
  · exact .of_ok (guarded_ok hpoison hrun) ha
  · exact .of_error (guarded_error hpoison hrun he) he

end Reads

/-! ## Rows of scans -/

theorem reads_fetch {s : Scan} (h : s.Readable) : Reads (fetch s) db fun _ => True := by
  cases hentry : s.entry? with
  | none =>
    refine .of_error ?_ (rfl : DatabaseError.isFatal .invalidCursor = false)
    unfold fetch Scan.row
    rw [hentry]
    rfl
  | some e =>
    obtain ⟨values, hvalues⟩ := h.exists_values hentry
    exact .of_ok (fetch_eq hentry hvalues db) trivial

theorem reads_next {s : Scan} (h : s.Readable) :
    Reads (Action.ofExcept s.next) db Scan.Readable := by
  refine .ofExcept (fun t ht => h.next ht) ?_
  intro e he
  unfold Scan.next at he
  split at he
  · cases he
  · cases he
    rfl

theorem reads_take (n : Nat) {s : Scan} (h : s.Readable) : Reads (take n s) db fun _ => True := by
  induction n generalizing s with
  | zero => exact .of_ok rfl trivial
  | succ n ih =>
    unfold take
    split
    · refine (reads_fetch h).bind fun row _ => ?_
      refine (reads_next h).bind fun t ht => ?_
      exact (ih ht).bind fun rows _ => .of_ok rfl trivial
    · exact .of_ok rfl trivial

/-! ## Tables -/

variable [Store κ] {s : Schema} {schemas : List Schema} {next : Nat}

/-- The store has a table of the schema. -/
def HasTable (db : Database κ) (s : Schema) : Prop :=
  ∃ (l : Layout) (p : UInt32) (t : Table), l.Holds db.entries ∧ l p = some t ∧
    p.toNat < maxWord32 ∧ t.schema = s

/-- Looking up a row of a table that the store has only reads. -/
theorem HasTable.reads_getRow (h : db.HasTable s) (r : Record) :
    Reads (getRow s r) db fun _ => True := by
  obtain ⟨l, p, t, hl, ht, -, rfl⟩ := h
  unfold Reads
  rw [getRow_eq hl ht r]
  refine Reads.ofExcept (fun _ _ => trivial) ?_
  intro e he
  exact Record.isFatal_of_select (Except.map_eq_error_iff.mp he)

/-- A scan of all rows of a table is readable. -/
theorem HasTable.readable_whole (h : db.HasTable s) : (Scan.start db.entries s .atLeast
    (prefixKey s.keyPrefix) .below (tableEnd s.keyPrefix)).Readable := by
  obtain ⟨l, p, t, hl, ht, hlast, rfl⟩ := h
  refine Scan.readable_start rfl ?_
  rw [hl.prefix_eq ht, hl.whole_eq ht hlast]
  intro e he
  obtain ⟨⟨key, others⟩, hrow, rfl⟩ := List.mem_map.mp he
  exact ⟨_, hl.decodeRow_eq ht ((OrderedMap.mem_toList_iff _).mp hrow)⟩

/-- So is a scan between two keys. -/
theorem HasTable.readable_range (h : db.HasTable s) {range : KeyRange} {start stop : Bytes}
    (hvalid : range.isValid = true) (hstart : rowKey s range.startKey = .ok start)
    (hstop : rowKey s range.stopKey = .ok stop) :
    (Scan.start db.entries s range.startBound start range.stopBound stop).Readable := by
  obtain ⟨l, p, t, hl, ht, -, rfl⟩ := h
  have hkey : ∀ {r : Record} {k : Bytes}, rowKey t.schema r = .ok k →
      ∃ key, t.schema.HasKey key ∧ encodeKey p key = k := by
    intro r k hk
    obtain ⟨key, hexactly, rfl⟩ := Except.map_eq_ok_iff.mp hk
    rw [hl.prefix_eq ht]
    exact ⟨key, ((Record.exactly_eq_ok_iff (hl.sound ht).schema).mp hexactly).hasKey, rfl⟩
  obtain ⟨startKey, hstartKey, rfl⟩ := hkey hstart
  obtain ⟨stopKey, hstopKey, rfl⟩ := hkey hstop
  have hfacing : range.startBound.ascends ≠ range.stopBound.ascends := by
    simpa [KeyRange.isValid] using hvalid
  refine Scan.readable_start hvalid ?_
  rw [hl.between_eq ht hfacing hstartKey hstopKey]
  intro e he
  obtain ⟨⟨key, others⟩, hrow, rfl⟩ := List.mem_map.mp he
  exact ⟨_, hl.decodeRow_eq ht (Table.mem_between_iff.mp hrow).1⟩

/-- A record that does not set the key is refused for the caller. -/
theorem isFatal_of_rowKey {r : Record} {e : DatabaseError} (h : rowKey s r = .error e) :
    e.isFatal = false :=
  Record.isFatal_of_exactly (Except.map_eq_error_iff.mp h)

/-! ## Calls -/

/-- A name stands for a table that the store has, or is refused. -/
def Resolves (db : Database κ) (name : String) : Prop :=
  Reads (resolve name) db db.HasTable

/-- With the schemas at hand every name stands for a table, or is refused. -/
theorem Registered.resolves (h : db.Registered schemas next) (name : String) :
    db.Resolves name := by
  rcases h.resolve_cases name with ⟨l, p, t, hl, ht, hlast, hrun⟩ | hrun
  · exact .of_ok hrun ⟨l, p, t, hl, ht, hlast, rfl⟩
  · exact .of_error hrun rfl

namespace Resolves

variable {name : String}

theorem reads_get (h : db.Resolves name) (hpoison : db.poison = none) (r : Record) :
    Reads (Database.get name r) db fun _ => True :=
  (h.bind fun _ hs => hs.reads_getRow r).guarded hpoison

theorem reads_schemaOf (h : db.Resolves name) (hpoison : db.poison = none) :
    Reads (schemaOf name) db db.HasTable :=
  h.guarded hpoison

/-- Scanning a table only reads, and the scan is one of rows. -/
theorem reads_scanTable (h : db.Resolves name) (hpoison : db.poison = none) :
    Reads (scanTable name) db Scan.Readable :=
  (h.guarded hpoison).bind fun _ hs => .of_ok rfl hs.readable_whole

theorem reads_scan (h : db.Resolves name) (hpoison : db.poison = none) (range : KeyRange) :
    Reads (scan name range) db Scan.Readable := by
  cases hvalid : range.isValid with
  | false => exact .of_error (scan_of_invalid hpoison name hvalid) rfl
  | true =>
    have hprepare : Reads (prepareScan name range) db fun found =>
        db.HasTable found.1 ∧ rowKey found.1 range.startKey = .ok found.2.1 ∧
          rowKey found.1 range.stopKey = .ok found.2.2 := by
      unfold prepareScan
      rw [if_pos hvalid]
      refine h.bind fun s hs => ?_
      refine (Reads.ofExcept (fun _ => id) fun _ => isFatal_of_rowKey).bind fun start hstart => ?_
      refine (Reads.ofExcept (fun _ => id) fun _ => isFatal_of_rowKey).bind fun stop hstop => ?_
      exact .of_ok rfl ⟨hs, hstart, hstop⟩
    refine (hprepare.guarded hpoison).bind ?_
    rintro ⟨s, start, stop⟩ ⟨hs, hstart, hstop⟩
    exact .of_ok rfl (hs.readable_range hvalid hstart hstop)

/-- The rows of the catalog have names, as they have been decoded. -/
theorem reads_tableNames (h : db.Resolves Schema.catalogName) (hpoison : db.poison = none) :
    Reads tableNames db fun _ => True := by
  have hscan : Reads (scanTable Schema.catalogName) db fun s =>
      s.Readable ∧ s.schema = Schema.catalog :=
    (h.reads_scanTable hpoison).imp fun s hrun hs => ⟨hs, schema_of_scanTable hrun⟩
  refine hscan.bind fun s hs => ?_
  have hrows : Reads (collect s) db fun rows => ∀ row ∈ rows, ∃ name, nameIn row = .ok name := by
    refine (reads_take _ hs.1).imp fun rows hrun _ row hrow => ?_
    obtain ⟨e, values, hdecode, rfl⟩ := exists_of_mem_take hrun hrow
    rw [hs.2] at hdecode ⊢
    exact exists_nameIn hdecode
  refine hrows.bind fun rows hnames => .ofExcept (fun _ _ => trivial) fun e he => ?_
  obtain ⟨row, hrow, he⟩ := Except.exists_error_of_mapM he
  obtain ⟨name, hname⟩ := hnames row hrow
  rw [hname] at he
  cases he

end Resolves

end Database

end PagedTables
