/-
# The key of a row

A record gives the stored key of its row in three ways: a row is found by the key columns picked
by name, removed or reached by a scan through a record that sets nothing else, and written from a
full record. The first column of each name is all that any of them sees of a record.

* `Record.exactly_iff` : which records set the first columns of a schema and no others;
* `KeyPath.key_eq` : all ways to the key of a row give the same key;
* `Record.Rearranged.agrees` : the order of columns and foreign columns do not matter;
* `Record.same_key` : all calls about a row mean the same row, and what they do depends on
  nothing else.
-/
import Mathlib
import PagedTables.Proofs.Tables.Record
import PagedTables.Proofs.Tables.Calls

namespace PagedTables

open PagedTables.Action

/-! ## Records that look alike to a schema -/

namespace Record

variable {s : Schema} {r r' : Record}

/-- Two records set the same values in the columns of a schema. -/
def Agrees (s : Schema) (r r' : Record) : Prop :=
  ∀ c ∈ s.columns, r.get? c = r'.get? c

/-- Two lists of fields differ in the order of fields with different names, and in fields that a
schema does not have. -/
inductive Rearranged (s : Schema) : List (String × Value) → List (String × Value) → Prop where
  /-- Nothing is rearranged. -/
  | refl (l : List (String × Value)) : Rearranged s l l
  /-- The first field stays. -/
  | cons (f : String × Value) {l l' : List (String × Value)} (h : Rearranged s l l') :
      Rearranged s (f :: l) (f :: l')
  /-- Two neighbours with different names are exchanged. -/
  | swap (f g : String × Value) (l : List (String × Value)) (h : f.1 ≠ g.1) :
      Rearranged s (f :: g :: l) (g :: f :: l)
  /-- A field that the schema does not have is added. -/
  | foreign (f : String × Value) (l : List (String × Value)) (h : f.1 ∉ s.columns) :
      Rearranged s l (f :: l)
  /-- The rearrangement is undone. -/
  | symm {l l' : List (String × Value)} (h : Rearranged s l l') : Rearranged s l' l
  /-- One rearrangement follows another. -/
  | trans {l l' l'' : List (String × Value)} (h : Rearranged s l l') (h' : Rearranged s l' l'') :
      Rearranged s l l''

/-- Fields with distinct names may stand in any order. -/
theorem rearranged_of_perm {l l' : List (String × Value)} (h : l.Perm l')
    (hnodup : (l.map Prod.fst).Nodup) : Rearranged s l l' := by
  induction h with
  | nil => exact .refl []
  | cons f _ ih => exact .cons f (ih (List.nodup_cons.mp hnodup).2)
  | swap f g l =>
    refine .swap g f l fun heq => ?_
    exact (List.nodup_cons.mp hnodup).1 (List.mem_cons.mpr (.inl heq))
  | trans hperm _ ih ih' => exact .trans (ih hnodup) (ih' ((hperm.map _).nodup hnodup))

/-- The first field of a name counts. -/
theorem get?_cons (f : String × Value) (l : List (String × Value)) (c : String) :
    (Record.mk (f :: l)).get? c = if f.1 == c then some f.2 else (Record.mk l).get? c := by
  unfold get?
  rw [List.find?_cons]
  cases f.1 == c <;> rfl

/-- **Rearranging a record** keeps the first value in each column of the schema. -/
theorem Rearranged.agrees {l l' : List (String × Value)} (h : Rearranged s l l') :
    Agrees s ⟨l⟩ ⟨l'⟩ := by
  intro c hc
  induction h with
  | refl => rfl
  | cons f _ ih => rw [get?_cons, get?_cons, ih]
  | swap f g l hne =>
    simp only [get?_cons]
    split
    · next hf =>
      -- the other field then has another name
      rw [if_neg]
      rw [beq_iff_eq] at hf ⊢
      exact fun hg => hne (hf.trans hg.symm)
    · rfl
  | foreign f l hforeign =>
    rw [get?_cons, if_neg]
    rw [beq_iff_eq]
    rintro rfl
    exact hforeign hc
  | symm _ ih => exact ih.symm
  | trans _ _ ih ih' => exact ih.trans ih'

end Record

/-! ## Ways to the key of a row -/

/-- The ways in which the stored key of a row is taken from a record. -/
inductive KeyPath where
  /-- The key columns are picked by name, whatever else is set. -/
  | picked
  /-- The key columns, and no others, are set. -/
  | alone
  /-- All columns are set, those of the key first. -/
  | full
  deriving DecidableEq, Repr

/-- The stored key that a record gives. -/
def KeyPath.key : KeyPath → Schema → Record → Except DatabaseError Bytes
  | picked, s, r => (r.select s s.keyColumns).map (encodeKey s.keyPrefix)
  | alone, s, r => Database.rowKey s r
  | full, s, r => (r.exactly s s.columns.length).map fun values =>
      encodeKey s.keyPrefix (values.take s.keyCount)

/-- A key is taken from the first values in the key columns. -/
theorem KeyPath.exists_of_key_eq_ok {s : Schema} (hs : s.Sound) {r : Record} {path : KeyPath}
    {key : Bytes} (h : path.key s r = .ok key) :
    ∃ values, s.keyColumns.map r.get? = values.map some ∧ key = encodeKey s.keyPrefix values := by
  cases path with
  | picked =>
    obtain ⟨values, hvalues, rfl⟩ := Except.map_eq_ok_iff.mp h
    exact ⟨values, ((Record.select_keyColumns_eq_ok_iff hs).mp hvalues).2, rfl⟩
  | alone =>
    obtain ⟨values, hvalues, rfl⟩ := Except.map_eq_ok_iff.mp h
    exact ⟨values, ((Record.exactly_eq_ok_iff hs).mp hvalues).set_eq, rfl⟩
  | full =>
    obtain ⟨values, hvalues, rfl⟩ := Except.map_eq_ok_iff.mp h
    have hset := ((Record.exactly_eq_ok_iff hs).mp hvalues).set_eq
    rw [List.take_length] at hset
    refine ⟨values.take s.keyCount, ?_, rfl⟩
    rw [Schema.keyColumns, List.map_take, hset, List.map_take]

/-- **All ways to the key** of a row give the same key. -/
theorem KeyPath.key_eq {s : Schema} (hs : s.Sound) {r : Record} {path path' : KeyPath}
    {key key' : Bytes} (h : path.key s r = .ok key) (h' : path'.key s r = .ok key') :
    key = key' := by
  obtain ⟨values, hvalues, rfl⟩ := exists_of_key_eq_ok hs h
  obtain ⟨values', hvalues', rfl⟩ := exists_of_key_eq_ok hs h'
  have heq : values.map some = values'.map some := hvalues.symm.trans hvalues'
  rw [(List.map_injective_iff.mpr (Option.some_injective _)) heq]

/-! ## Calls through the key of a row -/

namespace Database

variable {κ : Type} [Store κ] {α : Type}

/-- The row under a stored key. -/
def readRow (s : Schema) (key : Bytes) : Action DatabaseError (Database κ) (Option Record) := do
  let scan := Scan.start (← MonadState.get).entries s .atLeast key .atMost key
  if scan.isValid then
    return some (← fetch scan)
  else
    return none

/-- A row is looked up under the key that is picked from the record. -/
theorem getRow_eq_picked (s : Schema) (r : Record) :
    (getRow s r : Action DatabaseError (Database κ) _) =
      Action.ofExcept (KeyPath.picked.key s r) >>= readRow s := by
  funext db
  unfold getRow
  simp only [KeyPath.key]
  cases r.select s s.keyColumns <;> rfl

/-- A row is written under the key of the whole record. -/
theorem setRow_eq_full (s : Schema) (r : Record) (mode : WriteMode) :
    (setRow s r mode : Action DatabaseError (Database κ) _) = (do
      let key ← Action.ofExcept (KeyPath.full.key s r)
      let values ← Action.ofExcept (r.exactly s s.columns.length)
      onStore (Store.update key (encodeTuple (values.drop s.keyCount)) mode)) := by
  funext db
  unfold setRow
  simp only [KeyPath.key]
  cases r.exactly s s.columns.length <;> rfl

/-- A row is removed under the key of a record that has nothing else. -/
theorem deleteRow_eq_alone (s : Schema) (r : Record) :
    (deleteRow s r : Action DatabaseError (Database κ) _) = (do
      let key ← Action.ofExcept (KeyPath.alone.key s r)
      onStore (Store.delete key)) :=
  rfl

omit [Store κ] in
/-- What a database in use does depends on what its action does there. -/
theorem guarded_of_run_eq {act act' : Action DatabaseError (Database κ) α} {db : Database κ}
    (h : act db = act' db) : guarded act db = guarded act' db := by
  unfold guarded
  rw [Action.get_bind, Action.get_bind]
  cases db.poison with
  | some reason => rfl
  | none =>
    refine Action.bind_of_run_eq ?_
    unfold Action.attempt
    rw [h]

/-- No other schema than a given one is found under a name. -/
def Names (db : Database κ) (table : String) (s : Schema) : Prop :=
  ∀ t db', resolve table db = .ok t db' → t = s

/-- What is done with the schema of a name only depends on that schema. -/
theorem resolve_bind_congr {db : Database κ} {table : String} {s : Schema}
    {rest rest' : Schema → Action DatabaseError (Database κ) α} (h : db.Names table s)
    (hrest : rest s = rest' s) :
    (resolve table >>= rest) db = (resolve table >>= rest') db := by
  cases hrun : resolve table db with
  | ok t db' =>
    rw [Action.bind_ok hrun, Action.bind_ok hrun, h t db' hrun, hrest]
  | error e db' => rw [Action.bind_error hrun, Action.bind_error hrun]

/-- A scan only depends on the keys of its ends. -/
theorem scan_congr {db : Database κ} {table : String} {s : Schema}
    {startBound stopBound : Comparison} {start start' stop stop' : Record}
    (h : db.Names table s) (hstart : rowKey s start = rowKey s start')
    (hstop : rowKey s stop = rowKey s stop') :
    scan table ⟨startBound, start, stopBound, stop⟩ db =
      scan table ⟨startBound, start', stopBound, stop'⟩ db := by
  refine Action.bind_of_run_eq (guarded_of_run_eq ?_)
  unfold prepareScan
  by_cases hvalid : KeyRange.isValid ⟨startBound, start, stopBound, stop⟩ = true
  · have hvalid' : KeyRange.isValid ⟨startBound, start', stopBound, stop'⟩ = true := hvalid
    rw [if_pos hvalid, if_pos hvalid']
    refine resolve_bind_congr h ?_
    rw [hstart, hstop]
  · have hvalid' : ¬KeyRange.isValid ⟨startBound, start', stopBound, stop'⟩ = true := hvalid
    rw [if_neg hvalid, if_neg hvalid']

end Database

/-! ## What records that look alike do -/

theorem mapM_congr {ε α β : Type} {f g : α → Except ε β} {l : List α} (h : ∀ a ∈ l, f a = g a) :
    l.mapM f = l.mapM g := by
  induction l with
  | nil => rfl
  | cons a l ih =>
    rw [List.mapM_cons, List.mapM_cons, h a List.mem_cons_self,
      ih fun b hb => h b (List.mem_cons_of_mem _ hb)]

namespace Record

variable {s : Schema} {r r' : Record} {n : Nat}

/-- No check of a record and no call about its row tells two records apart. -/
structure SameCalls (s : Schema) (r r' : Record) : Prop where
  arrange_eq : r.arrange s = r'.arrange s
  exactly_eq (n : Nat) : r.exactly s n = r'.exactly s n
  select_eq (columns : List String) : r.select s columns = r'.select s columns
  key_eq (path : KeyPath) : path.key s r = path.key s r'
  getRow_eq {κ : Type} [Store κ] :
    (Database.getRow s r : Action DatabaseError (Database κ) _) = Database.getRow s r'
  setRow_eq {κ : Type} [Store κ] (mode : WriteMode) :
    (Database.setRow s r mode : Action DatabaseError (Database κ) _) = Database.setRow s r' mode
  deleteRow_eq {κ : Type} [Store κ] :
    (Database.deleteRow s r : Action DatabaseError (Database κ) _) = Database.deleteRow s r'
  get_eq {κ : Type} [Store κ] {db : Database κ} {table : String} (h : db.Names table s) :
    Database.get table r db = Database.get table r' db
  set_eq {κ : Type} [Store κ] {db : Database κ} {table : String} (h : db.Names table s)
    (mode : WriteMode) : Database.set table r mode db = Database.set table r' mode db
  delete_eq {κ : Type} [Store κ] {db : Database κ} {table : String} (h : db.Names table s) :
    Database.delete table r db = Database.delete table r' db
  scan_eq {κ : Type} [Store κ] {db : Database κ} {table : String} (h : db.Names table s)
    (startBound stopBound : Comparison) (key : Record) :
    Database.scan table ⟨startBound, r, stopBound, key⟩ db =
        Database.scan table ⟨startBound, r', stopBound, key⟩ db ∧
      Database.scan table ⟨startBound, key, stopBound, r⟩ db =
        Database.scan table ⟨startBound, key, stopBound, r'⟩ db

/-- Records that agree are arranged the same way. -/
theorem Agrees.arrange_eq (h : Agrees s r r') : r.arrange s = r'.arrange s := by
  refine mapM_congr fun column hcolumn => ?_
  obtain ⟨c, type⟩ := column
  simp only [h c (List.of_mem_zip hcolumn).1]

theorem Agrees.exactly_eq (h : Agrees s r r') (n : Nat) : r.exactly s n = r'.exactly s n := by
  unfold exactly
  rw [h.arrange_eq]

/-- A column with a type is one of the schema. -/
theorem mem_columns_of_columnType? {c : String} {type : ColumnType}
    (h : s.columnType? c = some type) : c ∈ s.columns := by
  obtain ⟨i, hi, -⟩ := Option.bind_eq_some_iff.mp h
  obtain ⟨hi, heq, -⟩ := List.findIdx?_eq_some_iff_getElem.mp hi
  rw [← eq_of_beq heq]
  exact List.getElem_mem hi

theorem Agrees.select_eq (h : Agrees s r r') (columns : List String) :
    r.select s columns = r'.select s columns := by
  refine mapM_congr fun c _ => ?_
  cases htype : s.columnType? c with
  | none => rfl
  | some type => rw [h c (mem_columns_of_columnType? htype)]

/-- Records that agree give the same key, in whatever way it is taken. -/
theorem Agrees.key_eq (h : Agrees s r r') (path : KeyPath) : path.key s r = path.key s r' := by
  cases path with
  | picked => exact congrArg (Except.map _) (h.select_eq _)
  | alone => exact congrArg (Except.map _) (h.exactly_eq _)
  | full => exact congrArg (Except.map _) (h.exactly_eq _)

/-- **The first value in each column** of the schema is all that a call sees of a record. -/
theorem Agrees.sameCalls (h : Agrees s r r') : SameCalls s r r' where
  arrange_eq := h.arrange_eq
  exactly_eq := h.exactly_eq
  select_eq := h.select_eq
  key_eq := h.key_eq
  getRow_eq := by
    intro κ _
    rw [Database.getRow_eq_picked, Database.getRow_eq_picked, h.key_eq]
  setRow_eq := by
    intro κ _ mode
    unfold Database.setRow
    rw [h.exactly_eq]
  deleteRow_eq := by
    intro κ _
    rw [Database.deleteRow_eq_alone, Database.deleteRow_eq_alone, h.key_eq]
  get_eq := by
    intro κ _ db table hnamed
    refine Database.guarded_of_run_eq (Database.resolve_bind_congr hnamed ?_)
    rw [Database.getRow_eq_picked, Database.getRow_eq_picked, h.key_eq]
  set_eq := by
    intro κ _ db table hnamed mode
    refine Database.guarded_of_run_eq (Database.resolve_bind_congr hnamed ?_)
    unfold Database.setRow
    rw [h.exactly_eq]
  delete_eq := by
    intro κ _ db table hnamed
    refine Database.guarded_of_run_eq (Database.resolve_bind_congr hnamed ?_)
    rw [Database.deleteRow_eq_alone, Database.deleteRow_eq_alone, h.key_eq]
  scan_eq := by
    intro κ _ db table hnamed startBound stopBound key
    have hkey : Database.rowKey s r = Database.rowKey s r' := h.key_eq .alone
    exact ⟨Database.scan_congr hnamed hkey rfl, Database.scan_congr hnamed rfl hkey⟩

/-! ## Records that pass a check -/

/-- The first columns hold a value of their type, and the later ones none. -/
def SetsFirst (r : Record) (n : Nat) (columns : List (String × ColumnType)) : Prop :=
  ∀ i c type, columns[i]? = some (c, type) →
    if i < n then ∃ v, r.get? c = some v ∧ v.type = type else r.get? c = none

/-- What is set in the first columns. -/
theorem SetsFirst.exists_values {columns : List String} {types : List ColumnType}
    (hlen : columns.length = types.length) (h : r.SetsFirst n (columns.zip types)) :
    ∃ values : List Value, values.map Value.type = types.take n ∧
      (columns.take n).map r.get? = values.map some ∧ ∀ c ∈ columns.drop n, r.get? c = none := by
  induction columns generalizing types n with
  | nil =>
    obtain rfl : types = [] := List.eq_nil_of_length_eq_zero hlen.symm
    refine ⟨[], by rw [List.take_nil]; rfl, by rw [List.take_nil]; rfl, fun c hc => ?_⟩
    rw [List.drop_nil] at hc
    cases hc
  | cons c columns ih =>
    cases types with
    | nil => cases hlen
    | cons type types =>
      have hrest := fun i d type' hd => h (i + 1) d type' hd
      have hc := h 0 c type rfl
      cases n with
      | zero =>
        refine ⟨[], rfl, rfl, fun d hd => ?_⟩
        rcases List.mem_cons.mp hd with rfl | hd
        · exact hc
        · obtain ⟨-, -, -, hunset⟩ := ih (n := 0) (Nat.succ.inj hlen) hrest
          exact hunset d hd
      | succ n =>
        obtain ⟨v, hv, rfl⟩ := hc
        obtain ⟨values, htypes, hset, hunset⟩ := ih (n := n) (Nat.succ.inj hlen) fun i d type' hd => by
          simpa only [Nat.add_lt_add_iff_right] using hrest i d type' hd
        refine ⟨v :: values, congrArg (v.type :: ·) htypes, ?_, hunset⟩
        rw [List.take_succ_cons, List.map_cons, hv, hset, List.map_cons]

/-- A record that sets the first columns and no others passes the check. -/
theorem Sets.setsFirst {values : List Value} (h : r.Sets s n values) :
    r.SetsFirst n (s.columns.zip s.types) := by
  intro i c type hcolumn
  obtain ⟨hc, htype⟩ := List.getElem?_zip_eq_some.mp hcolumn
  split
  · next hi =>
    have hget := congrArg (·[i]?) h.set_eq
    have htypes := congrArg (·[i]?) h.types_eq
    simp only [List.getElem?_map, List.getElem?_take_of_lt hi, hc, htype] at hget htypes
    obtain ⟨v, hv, hvtype⟩ := Option.map_eq_some_iff.mp htypes
    rw [hv] at hget
    exact ⟨v, Option.some.inj hget, hvtype⟩
  · next hi =>
    refine h.unset c (List.mem_of_getElem? (i := i - n) ?_)
    rw [List.getElem?_drop, Nat.add_sub_of_le (Nat.le_of_not_lt hi)]
    exact hc

/-- **A record sets the first columns** of a schema and no others just if the first value in each
of them is there and has the type of the column, and the later columns have none. -/
theorem exactly_iff (hs : s.Sound) :
    (∃ values, r.exactly s n = .ok values) ↔ r.SetsFirst n (s.columns.zip s.types) := by
  simp only [exactly_eq_ok_iff hs]
  constructor
  · rintro ⟨values, h⟩
    exact h.setsFirst
  · intro h
    obtain ⟨values, htypes, hset, hunset⟩ := h.exists_values hs.length_eq
    exact ⟨values, htypes, hset, hunset⟩

/-! ## Calls about one row -/

/-- **All calls about a row mean the same row.** Where two of the ways to its key succeed, they
give the same key; getting, setting and deleting a row and scanning a range each take one of
them. A check of the first columns succeeds just if these are set with their types and no later
one is; and all that is answered, errors included, depends on the first value in each column of
the schema, so that neither the order of the columns nor foreign columns change anything. -/
theorem same_key (s : Schema) (h : s.check = .ok ()) (r : Record) :
    (∀ (path path' : KeyPath) (key key' : Bytes),
      path.key s r = .ok key → path'.key s r = .ok key' → key = key') ∧
    (∀ {κ : Type} [Store κ],
      (Database.getRow s r : Action DatabaseError (Database κ) _) =
        Action.ofExcept (KeyPath.picked.key s r) >>= Database.readRow s ∧
      (∀ mode, (Database.setRow s r mode : Action DatabaseError (Database κ) _) = (do
        let key ← Action.ofExcept (KeyPath.full.key s r)
        let values ← Action.ofExcept (r.exactly s s.columns.length)
        Database.onStore (Store.update key (encodeTuple (values.drop s.keyCount)) mode))) ∧
      (Database.deleteRow s r : Action DatabaseError (Database κ) _) = (do
        let key ← Action.ofExcept (KeyPath.alone.key s r)
        Database.onStore (Store.delete key)) ∧
      ∀ table (range : KeyRange), range.isValid →
        (Database.prepareScan table range : Action DatabaseError (Database κ) _) = (do
          let t ← Database.resolve table
          let start ← Action.ofExcept (KeyPath.alone.key t range.startKey)
          let stop ← Action.ofExcept (KeyPath.alone.key t range.stopKey)
          return (t, start, stop))) ∧
    (∀ n, (∃ values, r.exactly s n = .ok values) ↔ r.SetsFirst n (s.columns.zip s.types)) ∧
    (∀ r', Agrees s r r' → SameCalls s r r') ∧
    (∀ fields, Rearranged s r.fields fields → SameCalls s r ⟨fields⟩) ∧
    (∀ fields, r.fields.Perm fields → r.columns.Nodup → SameCalls s r ⟨fields⟩) := by
  have hs := Schema.sound_of_check h
  refine ⟨fun path path' key key' hkey hkey' => KeyPath.key_eq hs hkey hkey', ?_,
    fun n => exactly_iff hs, fun r' hagrees => hagrees.sameCalls,
    fun fields hfields => hfields.agrees.sameCalls,
    fun fields hperm hnodup => (rearranged_of_perm hperm hnodup).agrees.sameCalls⟩
  intro κ _
  refine ⟨Database.getRow_eq_picked s r, Database.setRow_eq_full s r,
    Database.deleteRow_eq_alone s r, ?_⟩
  intro table range hvalid
  unfold Database.prepareScan
  rw [if_pos hvalid]
  rfl

/-- A setting with a second key and a note, of which neither counts. -/
theorem same_key_of_setting :
    let key : String × Value := ("key", .bytes [1])
    let val : String × Value := ("val", .bytes [2])
    let second : String × Value := ("key", .int64 3)
    let note : String × Value := ("note", .int64 4)
    (∃ k k', KeyPath.picked.key Schema.settings ⟨[key, val, second]⟩ = .ok k ∧
      KeyPath.full.key Schema.settings ⟨[key, val, second]⟩ = .ok k' ∧ k = k') ∧
    (∃ values, exactly Schema.settings ⟨[key, val, second]⟩ 2 = .ok values) ∧
    SameCalls Schema.settings ⟨[key, val, second]⟩ ⟨[note, val, key, second]⟩ := by
  intro key val second note
  obtain ⟨hkey, -, hexactly, -, hrearranged, -⟩ :=
    same_key Schema.settings rfl ⟨[key, val, second]⟩
  refine ⟨⟨_, _, rfl, rfl, hkey .picked .full _ _ rfl rfl⟩, ?_, ?_⟩
  · refine (hexactly 2).mpr fun i c type hcolumn => ?_
    match i with
    | 0 => cases hcolumn; exact ⟨_, rfl, rfl⟩
    | 1 => cases hcolumn; exact ⟨_, rfl, rfl⟩
    | i + 2 => cases hcolumn
  · refine hrearranged _ (.trans (.swap key val _ (by decide)) ?_)
    exact .foreign note _ (by decide)

end Record

end PagedTables
