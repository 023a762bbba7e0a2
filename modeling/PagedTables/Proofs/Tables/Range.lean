/-
# Ranges of rows

A scan of a range gives the rows of the table whose keys lie in it, each once and in the order of
their keys, whatever else is in the store.

* `Database.Built`, `Database.Built.shows` : what calls make of an empty store;
* `Table.mem_between_iff`, `Table.pairwise_between` : the rows of a range;
* `Database.scan_exact` : scans in every such database.
-/
import Mathlib
import PagedTables.Proofs.Tables.Refinement

namespace PagedTables

/-! ## Rows of a range -/

namespace Table

variable {t : Table} {startBound stopBound : Comparison} {startKey stop key others : List Value}

/-- The rows of a range are those of the table whose keys satisfy both bounds. -/
theorem mem_between_iff : (key, others) ∈ t.between startBound startKey stopBound stop ↔
    t.rows.lookup key = some others ∧ startBound.accepts (compare key startKey) ∧
      stopBound.accepts (compare key stop) := by
  rw [between, List.mem_filter, OrderedMap.mem_inOrder_iff, Bool.and_eq_true]

/-- The rows of a range ascend or descend, with its first bound. -/
theorem pairwise_between : (t.between startBound startKey stopBound stop).Pairwise
    fun a b => compare a.1 b.1 = Comparison.direction startBound.ascends :=
  (t.rows.pairwise_inOrder startBound.ascends).filter _

/-- Nothing lies between bounds that cross. -/
theorem between_eq_nil (hfacing : startBound.ascends ≠ stopBound.ascends)
    (hcross : ¬(startBound.accepts (compare stop startKey) ∧
      stopBound.accepts (compare startKey stop))) :
    t.between startBound startKey stopBound stop = [] := by
  rw [List.eq_nil_iff_forall_not_mem]
  rintro ⟨key, others⟩ hrow
  obtain ⟨-, hstart, hstop⟩ := mem_between_iff.mp hrow
  exact hcross ⟨Comparison.accepts_reference hfacing hstart hstop,
    Comparison.accepts_reference hfacing.symm hstop hstart⟩

end Table

namespace Database

variable {κ : Type} [Store κ] {Fails : StoreError → Prop} {db : Database κ} {limits : Limits}
variable {tables : Tables} {next : Nat}

/-! ## Databases that calls have built -/

/-- A database that calls have made of an empty store, with the tables that they have made: those
of the calls that were not refused. -/
inductive Built : Database κ → Tables → Prop
  /-- A database on an empty store. -/
  | new (s : κ) (hempty : (Store.contents s).entries = ∅) : Built { store := s } ∅
  /-- A further call. -/
  | call {db : Database κ} {tables : Tables} {call : TableCall} (h : Built db tables)
      (hcall : call.OnUserTable) :
      Built (Action.outcome call.run db).2 (tables.after call (Action.outcome call.run db).1)

/-- A sequence of calls builds, in memory, the tables from which it is answered. -/
theorem built_runAll {db : Database MemoryStore} (h : Built db tables)
    (hdb : db.Mirrors limits tables) {calls : List TableCall}
    (hcalls : ∀ call ∈ calls, call.OnUserTable) :
    Built (TableCall.runAll calls db).2 (Tables.answerAll limits calls tables).2 := by
  induction calls generalizing db tables with
  | nil => exact h
  | cons call calls ih =>
    have hcall := hcalls call List.mem_cons_self
    obtain ⟨hreply, hmirrors, -⟩ := hdb.call hcall
    have hbuilt := h.call hcall
    rw [hreply] at hbuilt
    exact ih hbuilt hmirrors fun c hc => hcalls c (List.mem_cons_of_mem _ hc)

/-- **What calls have built** has the tables that they have made. -/
theorem Built.shows (hlawful : Store.Lawful κ Fails) (h : Built db tables) :
    ∃ limits next, db.Shows limits tables next := by
  induction h with
  | new s hempty => exact ⟨_, _, _, Layout.describes_empty hempty⟩
  | @call db tables call h hcall ih =>
    obtain ⟨limits, next, hshows⟩ := ih
    unfold Action.outcome
    cases hpoison : db.poison with
    | some reason =>
      rw [run_of_poison hpoison]
      exact ⟨limits, next, hshows⟩
    | none =>
      have hends := call.ends hlawful hshows hpoison hcall
      cases hrun : call.run db with
      | ok reply t =>
        rw [hrun] at hends
        exact ⟨limits, _, hends.of_ok.2.2⟩
      | error e t =>
        rw [hrun] at hends
        rcases hends.of_error with ⟨-, hsame⟩ | ⟨-, n, hshows'⟩
        · exact ⟨limits, next, hsame.shows hshows⟩
        · -- a failure of the store may cost a prefix, but no row
          exact ⟨limits, n, hshows'⟩

/-! ## Scans -/

/-- Ranges whose bounds do not face each other are refused. -/
theorem scan_of_invalid (hpoison : db.poison = none) (name : String) {range : KeyRange}
    (h : range.isValid = false) :
    scan name range db = .error (.badRange range.startBound range.stopBound) db := by
  have hprepare : prepareScan name range db =
      .error (.badRange range.startBound range.stopBound) db := by
    unfold prepareScan
    rw [h]
    rfl
  exact Action.bind_error (guarded_error hpoison hprepare rfl)

/-- A scan of a range of a table starts at the encoded bounds. -/
theorem scan_of_valid {l : Layout} {name : String} {t : Table} {p : UInt32} {range : KeyRange}
    {startKey stop : List Value} (hpoison : db.poison = none)
    (h : l.Describes limits (Store.contents db.store) db.cache tables next)
    (ht : tables.lookup name = some t) (hcache : db.cache.lookup name = some (t.schema.placed p))
    (hp : l p = some (t.placed p)) (hvalid : range.isValid = true)
    (hstart : range.startKey.Sets t.schema t.schema.keyCount startKey)
    (hstop : range.stopKey.Sets t.schema t.schema.keyCount stop) :
    scan name range db = .ok (Scan.start db.entries (t.schema.placed p) range.startBound
      (encodeKey p startKey) range.stopBound (encodeKey p stop)) db := by
  have hsound : (t.schema.placed p).Sound := (h.holds.sound hp).schema
  have hrowKey : ∀ {r : Record} {key : List Value}, r.Sets t.schema t.schema.keyCount key →
      rowKey (t.schema.placed p) r = .ok (encodeKey p key) := by
    intro r key hr
    have hexactly : r.exactly (t.schema.placed p) (t.schema.placed p).keyCount = .ok key :=
      (Record.exactly_eq_ok_iff hsound).mpr ⟨hr.types_eq, hr.set_eq, hr.unset⟩
    rw [rowKey, hexactly]
    rfl
  have hprepare : prepareScan name range db =
      .ok (t.schema.placed p, encodeKey p startKey, encodeKey p stop) db := by
    unfold prepareScan
    rw [if_pos hvalid, Action.bind_ok (resolve_of_some (h.named ht).2 hcache), hrowKey hstart,
      Action.ofExcept_bind_ok, hrowKey hstop, Action.ofExcept_bind_ok]
    rfl
  unfold scan
  rw [Action.bind_ok (guarded_ok hpoison hprepare)]
  rfl

/-- **Scans are exact.** In every database in use that calls have built from an empty store, a scan
of a range of a table, whose bounds face each other and whose records set the key and nothing else,
comes to an end with the rows of the table whose keys satisfy both bounds, in full and with all
columns in the order of the schema; they ascend or descend with the first bound, so that none
comes twice, and there are none if the bounds cross. All of this is said of the one table alone.
Bounds that do not face each other are refused, and nothing is changed. -/
theorem scan_exact (hlawful : Store.Lawful κ Fails) (hbuilt : Built db tables)
    (hpoison : db.poison = none) :
    (∀ (name : String) (t : Table), tables.lookup name = some t →
      ∀ (range : KeyRange) (startKey stop : List Value), range.isValid = true →
      range.startKey.Sets t.schema t.schema.keyCount startKey →
      range.stopKey.Sets t.schema t.schema.keyCount stop →
      let rows := t.between range.startBound startKey range.stopBound stop
      let records := rows.map fun row => Record.ofRow t.schema (row.1 ++ row.2)
      (∃ s, scan name range db = .ok s db ∧ collect s db = .ok records db ∧
        ∀ n, take n s db = .ok (records.take n) db) ∧
      (∀ key others, (key, others) ∈ rows ↔ t.rows.lookup key = some others ∧
        range.startBound.accepts (compare key startKey) ∧
        range.stopBound.accepts (compare key stop)) ∧
      rows.Pairwise (fun a b =>
        compare a.1 b.1 = if range.startBound.ascends then .lt else .gt) ∧
      (¬(range.startBound.accepts (compare stop startKey) ∧
        range.stopBound.accepts (compare startKey stop)) → rows = [])) ∧
    ∀ (name : String) (range : KeyRange), range.isValid = false →
      scan name range db = .error (.badRange range.startBound range.stopBound) db := by
  obtain ⟨limits, next, l, h⟩ := hbuilt.shows hlawful
  refine ⟨?_, fun name range => scan_of_invalid hpoison name⟩
  intro name t ht range startKey stop hvalid hstart hstop
  obtain ⟨p, -, hcache, hp⟩ := h.placed ht
  have hfacing : range.startBound.ascends ≠ range.stopBound.ascends := by
    simpa [KeyRange.isValid] using hvalid
  have hbetween := h.holds.between_eq hp hfacing hstart.hasKey hstop.hasKey
  have hscan := scan_of_valid hpoison h ht hcache hp hvalid hstart hstop
  have hrows : (t.placed p).between range.startBound startKey range.stopBound stop =
      t.between range.startBound startKey range.stopBound stop := rfl
  rw [hrows] at hbetween
  have htake : ∀ n, take n (Scan.start db.entries (t.schema.placed p) range.startBound
      (encodeKey p startKey) range.stopBound (encodeKey p stop)) db =
        .ok (((t.between range.startBound startKey range.stopBound stop).take n).map fun row =>
          Record.ofRow t.schema (row.1 ++ row.2)) db := by
    intro n
    refine take_start hvalid hbetween ?_ n db
    rintro ⟨key, others⟩ hrow
    exact h.holds.decodeRow_eq hp (Table.mem_between_iff.mp hrow).1
  -- as many moves as the store has entries are enough for all rows
  have hlength : (t.between range.startBound startKey range.stopBound stop).length ≤
      db.entries.size := by
    rw [← List.length_map (f := storedRow p), ← hbetween]
    exact (List.length_filter_le _ _).trans_eq (db.entries.length_inOrder _)
  refine ⟨⟨_, hscan, ?_, ?_⟩, fun key others => Table.mem_between_iff, Table.pairwise_between,
    Table.between_eq_nil hfacing⟩
  · refine (htake db.entries.size).trans ?_
    rw [List.take_of_length_le hlength]
  · intro n
    rw [htake n, List.map_take]

/-- Of three notes, those up to the seventh and above the first, the last one first. -/
theorem scan_exact_of_three_notes :
    let calls : List TableCall := [.create notes, .insert "notes" (note 7 [0]),
      .insert "notes" (note 9 [1]), .insert "notes" (note 3 [])]
    let db : Database MemoryStore := (TableCall.runAll calls { store := MemoryStore.empty }).2
    let first : Record := ⟨[("id", .int64 1)]⟩
    let last : Record := ⟨[("id", .int64 7)]⟩
    (∃ s, scan "notes" ⟨.atMost, last, .above, first⟩ db = .ok s db ∧
      collect s db = .ok [note 7 [0], note 3 []] db) ∧
    scan "notes" ⟨.atLeast, first, .above, last⟩ db = .error (.badRange .atLeast .above) db := by
  intro calls db first last
  have hcalls : ∀ call ∈ calls, call.OnUserTable := by
    simp [calls, TableCall.OnUserTable, TableCall.table, Schema.builtIn?, Schema.settingsName,
      Schema.catalogName]
  have hbuilt : Built db (Tables.answerAll MemoryStore.empty.limits calls ∅).2 :=
    built_runAll (.new _ rfl) (mirrors_empty rfl) hcalls
  have hpoison : db.poison = none := (mirrors_runAll (mirrors_empty rfl) hcalls).2.poison
  have hnotes : ((Tables.answerAll MemoryStore.empty.limits calls ∅).2.lookup "notes").map
      (fun t => (t.schema, t.rows.toList)) =
        some (notes.fillPrimary, [([.int64 3], [.bytes []]), ([.int64 7], [.bytes [0]]),
          ([.int64 9], [.bytes [1]])]) := by
    decide +kernel
  obtain ⟨t, ht, hcontents⟩ := Option.map_eq_some_iff.mp hnotes
  obtain ⟨hschema, hrows⟩ := Prod.mk.inj hcontents
  have hsets : ∀ id : Int64, Record.Sets t.schema ⟨[("id", .int64 id)]⟩ t.schema.keyCount
      [.int64 id] := by
    intro id
    rw [hschema]
    have hothers : notes.fillPrimary.columns.drop notes.fillPrimary.keyCount = ["text"] := rfl
    refine ⟨rfl, rfl, ?_⟩
    rw [hothers, List.forall_mem_singleton]
    rfl
  obtain ⟨htable, hbad⟩ := scan_exact MemoryStore.lawful hbuilt hpoison
  obtain ⟨⟨s, hscan, hcollect, -⟩, -⟩ :=
    htable "notes" t ht ⟨.atMost, last, .above, first⟩ _ _ rfl (hsets 7) (hsets 1)
  refine ⟨⟨s, hscan, ?_⟩, hbad "notes" _ rfl⟩
  rw [hcollect]
  simp only [Table.between, OrderedMap.inOrder, hrows, hschema]
  rfl

end Database

end PagedTables
