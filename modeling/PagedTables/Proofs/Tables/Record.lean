/-
# Records of a table

A record that passes the checks of a table sets some columns of the table, each to a value of
its type. What a full record sets falls into the key of a row and its other columns.

* `Schema.Sound` : what the rules of schemas guarantee for rows;
* `Record.exactly_eq_ok_iff` : records that set the first columns and no others;
* `Record.select_keyColumns_eq_ok_iff` : records that set the key, whatever else they set.
-/
import Mathlib
import PagedTables.Proofs.Action
import PagedTables.Table.Record

namespace PagedTables

/-! ## Schemas -/

namespace Schema

/-- What the rules of schemas guarantee for rows: as many types as columns, a key inside the
columns, and no name twice. -/
structure Sound (s : Schema) : Prop where
  length_eq : s.columns.length = s.types.length
  keyCount_le : s.keyCount ≤ s.columns.length
  nodup : s.columns.Nodup

/-- The values have the types of the key columns. -/
def HasKey (s : Schema) (key : List Value) : Prop :=
  key.map Value.type = s.types.take s.keyCount

/-- The values have the types of the columns after the key. -/
def HasOthers (s : Schema) (others : List Value) : Prop :=
  others.map Value.type = s.types.drop s.keyCount

/-- No column of a schema that is checked occurs twice. -/
theorem nodup_of_checkColumns {seen columns : List String}
    (h : checkColumns seen columns = .ok ()) :
    columns.Nodup ∧ ∀ c ∈ columns, c ∉ seen := by
  induction columns generalizing seen with
  | nil => simp
  | cons c rest ih =>
    rw [checkColumns] at h
    split at h
    · cases h
    · split at h
      · cases h
      · next hseen =>
        obtain ⟨hnodup, hnew⟩ := ih h
        have hc : c ∉ rest := fun hmem => hnew c hmem List.mem_cons_self
        refine ⟨List.nodup_cons.mpr ⟨hc, hnodup⟩, ?_⟩
        intro d hd
        rcases List.mem_cons.mp hd with rfl | hd
        · simpa using hseen
        · exact fun hmem => hnew d hd (List.mem_cons_of_mem _ hmem)

/-- The rules of schemas. -/
theorem check_eq_ok_iff {s : Schema} :
    s.check = .ok () ↔ s.name.isEmpty = false ∧ s.columns ≠ [] ∧
      s.columns.length = s.types.length ∧ (1 ≤ s.keyCount ∧ s.keyCount ≤ s.columns.length) ∧
      checkColumns [] s.columns = .ok () ∧
      (∀ i, s.indexes.head? = some i → i.columns = s.keyColumns) ∧
      checkIndexes s.columns [] s.indexes = .ok () := by
  have hfirst : (¬(s.indexes.head?.any fun i => decide (i.columns ≠ s.keyColumns)) = true) ↔
      ∀ i, s.indexes.head? = some i → i.columns = s.keyColumns := by
    cases s.indexes.head? <;> simp
  have hcount : (¬(s.keyCount < 1 ∨ s.columns.length < s.keyCount)) ↔
      1 ≤ s.keyCount ∧ s.keyCount ≤ s.columns.length := by
    omega
  unfold check
  simp only [Except.guard_eq_ok_iff, Except.bind_eq_ok_iff, hfirst, hcount, Bool.not_eq_true,
    List.isEmpty_eq_false_iff, ne_eq, not_not, Unique.exists_iff]

/-- A schema that breaks no rule is sound. -/
theorem sound_of_check {s : Schema} (h : s.check = .ok ()) : s.Sound := by
  obtain ⟨-, -, hlength, ⟨-, hcount⟩, hcolumns, -⟩ := check_eq_ok_iff.mp h
  exact ⟨hlength, hcount, (nodup_of_checkColumns hcolumns).1⟩

/-- The schema of the settings is sound. -/
theorem sound_settings : settings.Sound :=
  sound_of_check rfl

theorem sound_catalog : catalog.Sound :=
  sound_of_check rfl

/-- The type that a schema lists for a column of its own. -/
theorem columnType?_getElem {s : Schema} (hs : s.Sound) {i : Nat} (hi : i < s.columns.length) :
    s.columnType? s.columns[i] = s.types[i]? := by
  have hfind : s.columns.findIdx? (· == s.columns[i]) = some i := by
    rw [List.findIdx?_eq_some_iff_getElem]
    refine ⟨hi, beq_self_eq_true _, ?_⟩
    intro j hj heq
    have hji := (hs.nodup.getElem_inj_iff).mp (eq_of_beq heq)
    omega
  rw [columnType?, columnIndex?, hfind, Option.bind_some]

/-- The types of the key columns. -/
theorem map_columnType?_keyColumns {s : Schema} (hs : s.Sound) :
    s.keyColumns.map s.columnType? = (s.types.take s.keyCount).map some := by
  have hlen := hs.length_eq
  have hle := hs.keyCount_le
  apply List.ext_getElem
  · simp only [keyColumns, List.length_map, List.length_take]
    omega
  · intro i h₁ h₂
    simp only [keyColumns, List.length_map, List.length_take] at h₁ h₂
    simp only [keyColumns, List.getElem_map, List.getElem_take]
    rw [columnType?_getElem hs (by omega), List.getElem?_eq_getElem]

end Schema

/-! ## Records -/

namespace Record

variable {s : Schema} {r : Record} {n : Nat} {values key : List Value}

/-- The record sets the first `n` columns of the schema to values of their types, and no other
column of it. -/
structure Sets (s : Schema) (r : Record) (n : Nat) (values : List Value) : Prop where
  types_eq : values.map Value.type = s.types.take n
  set_eq : (s.columns.take n).map r.get? = values.map some
  unset : ∀ c ∈ s.columns.drop n, r.get? c = none

/-- A value is accepted exactly if it has the type of its column. -/
theorem checkType_eq_ok_iff {column : String} {type : ColumnType} {v w : Value} :
    checkType column type v = .ok w ↔ v.type = type ∧ v = w := by
  unfold checkType
  split
  · next h => simp [h]
  · next h => simp [h]

/-- Whatever a record sets in a column has a certain type. -/
def Fits (r : Record) (column : String) (type : ColumnType) : Prop :=
  ∀ v, r.get? column = some v → v.type = type

/-- What a record sets in a column, checked against its type. -/
def slot (r : Record) (column : String) (type : ColumnType) :
    Except DatabaseError (Option Value) :=
  match r.get? column with
  | none => .ok none
  | some value => (checkType column type value).map some

/-- A column of a record is accepted exactly if it has no value of another type. -/
theorem slot_eq_ok_iff {column : String} {type : ColumnType} {found : Option Value} :
    r.slot column type = .ok found ↔ found = r.get? column ∧ r.Fits column type := by
  unfold slot Fits
  cases hget : r.get? column with
  | none =>
    constructor
    · intro h
      exact ⟨(Except.ok.inj h).symm, nofun⟩
    · rintro ⟨rfl, -⟩
      rfl
  | some v =>
    simp only [Except.map_eq_ok_iff, checkType_eq_ok_iff]
    constructor
    · rintro ⟨w, ⟨htype, rfl⟩, rfl⟩
      exact ⟨rfl, fun w hw => Option.some.inj hw ▸ htype⟩
    · rintro ⟨rfl, htype⟩
      exact ⟨v, ⟨htype v rfl, rfl⟩, rfl⟩

/-- What a record sets in columns with their types. -/
def slots (r : Record) (columns : List (String × ColumnType)) :
    Except DatabaseError (List (Option Value)) :=
  columns.mapM fun column => r.slot column.1 column.2

/-- The types of all columns are checked, set by set. -/
theorem slots_zip_eq_ok_iff {columns : List String} {types : List ColumnType}
    (hlen : columns.length = types.length) {found : List (Option Value)} :
    r.slots (columns.zip types) = .ok found ↔
      found = columns.map r.get? ∧ List.Forall₂ r.Fits columns types := by
  unfold slots
  induction columns generalizing types found with
  | nil =>
    obtain rfl : types = [] := by simpa using hlen.symm
    constructor
    · intro h
      exact ⟨(Except.ok.inj h).symm, .nil⟩
    · rintro ⟨rfl, -⟩
      rfl
  | cons c columns ih =>
    cases types with
    | nil => cases hlen
    | cons type types =>
      rw [List.zip_cons_cons, List.mapM_cons, Except.bind_eq_ok_iff, List.forall₂_cons]
      constructor
      · rintro ⟨first, hfirst, hrest⟩
        obtain ⟨rfl, htype⟩ := slot_eq_ok_iff.mp hfirst
        obtain ⟨rest, hrest, hpure⟩ := Except.bind_eq_ok_iff.mp hrest
        obtain ⟨rfl, htypes⟩ := (ih (Nat.succ.inj hlen)).mp hrest
        exact ⟨(Except.ok.inj hpure).symm, htype, htypes⟩
      · rintro ⟨rfl, htype, htypes⟩
        exact ⟨r.get? c, slot_eq_ok_iff.mpr ⟨rfl, htype⟩,
          Except.bind_eq_ok_iff.mpr ⟨_, (ih (Nat.succ.inj hlen)).mpr ⟨rfl, htypes⟩, rfl⟩⟩

/-- The first columns must be set, and the others must not. -/
theorem requireFirst_eq_ok_iff {found : List (String × Option Value)} :
    requireFirst n found = .ok values ↔
      (found.take n).map (·.2) = values.map some ∧ ∀ e ∈ found.drop n, e.2 = none := by
  induction found generalizing n values with
  | nil =>
    rw [requireFirst, Except.ok.injEq]
    cases values <;> simp
  | cons e found ih =>
    obtain ⟨column, value⟩ := e
    cases n with
    | zero =>
      cases value with
      | some v => simp [requireFirst]
      | none =>
        rw [requireFirst, ih]
        simp
    | succ n =>
      cases value with
      | none => cases values <;> simp [requireFirst]
      | some v =>
        rw [requireFirst, Except.map_eq_ok_iff]
        constructor
        · rintro ⟨vs, hvs, rfl⟩
          obtain ⟨hset, hunset⟩ := ih.mp hvs
          exact ⟨congrArg (some v :: ·) hset, hunset⟩
        · rintro ⟨hset, hunset⟩
          cases values with
          | nil => cases hset
          | cons w vs =>
            rw [List.take_succ_cons, List.map_cons, List.map_cons, List.cons.injEq] at hset
            obtain rfl := Option.some.inj hset.1
            exact ⟨vs, ih.mpr ⟨hset.2, hunset⟩, rfl⟩

/-- When it is known which columns are set, and to what, their types are those of the values. -/
theorem forall₂_fits_iff {columns : List String} {types : List ColumnType}
    (hlen : columns.length = types.length) (hset : (columns.take n).map r.get? = values.map some)
    (hunset : ∀ c ∈ columns.drop n, r.get? c = none) :
    List.Forall₂ r.Fits columns types ↔ values.map Value.type = types.take n := by
  induction columns generalizing types n values with
  | nil =>
    obtain rfl : types = [] := by simpa using hlen.symm
    obtain rfl : values = [] := by simpa using hset.symm
    simp
  | cons c columns ih =>
    cases types with
    | nil => cases hlen
    | cons type types =>
      rw [List.forall₂_cons]
      cases n with
      | zero =>
        obtain rfl : values = [] := by simpa using hset.symm
        have hfits : r.Fits c type := by
          intro v hv
          rw [hunset c List.mem_cons_self] at hv
          cases hv
        have hrest : List.Forall₂ r.Fits columns types :=
          (@ih 0 [] types (Nat.succ.inj hlen) rfl
            fun d hd => hunset d (List.mem_cons_of_mem _ hd)).mpr rfl
        simp [hfits, hrest]
      | succ n =>
        cases values with
        | nil => cases hset
        | cons v vs =>
          obtain ⟨hget, hset⟩ := List.cons.inj hset
          have hfits : r.Fits c type ↔ v.type = type := by
            constructor
            · intro h
              exact h v hget
            · rintro h w hw
              obtain rfl := Option.some.inj (hget.symm.trans hw)
              exact h
          rw [hfits, ih (Nat.succ.inj hlen) hset hunset, List.map_cons, List.take_succ_cons,
            List.cons.injEq]

/-- **Records that set the first columns** pass the check, and no others do. -/
theorem exactly_eq_ok_iff (hs : s.Sound) : r.exactly s n = .ok values ↔ r.Sets s n values := by
  have hslots : r.exactly s n = (r.slots (s.columns.zip s.types) >>=
      fun found => requireFirst n (s.columns.zip found)) := rfl
  have hfound : (s.columns.zip (s.columns.map r.get?)).map (·.2) = s.columns.map r.get? := by
    rw [← List.unzip_snd, List.unzip_zip (by simp)]
  have hdrop : (∀ e ∈ (s.columns.zip (s.columns.map r.get?)).drop n, e.2 = none) ↔
      ∀ c ∈ s.columns.drop n, r.get? c = none := by
    rw [← List.forall_mem_map (f := Prod.snd) (P := (· = none)), List.map_drop, hfound,
      ← List.map_drop, List.forall_mem_map]
  -- first all types are checked, then which columns are set
  simp only [hslots, Except.bind_eq_ok_iff, slots_zip_eq_ok_iff hs.length_eq]
  constructor
  · rintro ⟨_, ⟨rfl, hfits⟩, h⟩
    obtain ⟨hset, hunset⟩ := requireFirst_eq_ok_iff.mp h
    rw [List.map_take, hfound, ← List.map_take] at hset
    rw [hdrop] at hunset
    exact ⟨(forall₂_fits_iff hs.length_eq hset hunset).mp hfits, hset, hunset⟩
  · intro h
    refine ⟨_, ⟨rfl, (forall₂_fits_iff hs.length_eq h.set_eq h.unset).mpr h.types_eq⟩, ?_⟩
    rw [requireFirst_eq_ok_iff, List.map_take, hfound, ← List.map_take, hdrop]
    exact ⟨h.set_eq, h.unset⟩

/-- The values of named columns are found, and have the types of the columns. -/
theorem select_eq_ok_iff {columns : List String} :
    r.select s columns = .ok values ↔
      columns.map s.columnType? = (values.map Value.type).map some ∧
        columns.map r.get? = values.map some := by
  unfold select
  induction columns generalizing values with
  | nil =>
    constructor
    · intro h
      obtain rfl := Except.ok.inj h
      simp
    · rintro ⟨htypes, -⟩
      obtain rfl : values = [] := by simpa using htypes.symm
      rfl
  | cons c columns ih =>
    rw [List.mapM_cons, Except.bind_eq_ok_iff]
    constructor
    · rintro ⟨v, hv, hrest⟩
      obtain ⟨vs, hvs, hpure⟩ := Except.bind_eq_ok_iff.mp hrest
      obtain rfl := Except.ok.inj hpure
      obtain ⟨htypes, hset⟩ := ih.mp hvs
      cases htype : s.columnType? c with
      | none =>
        rw [htype] at hv
        cases hv
      | some type =>
        rw [htype] at hv
        cases hget : r.get? c with
        | none =>
          rw [hget] at hv
          cases hv
        | some w =>
          rw [hget] at hv
          obtain ⟨rfl, rfl⟩ := checkType_eq_ok_iff.mp hv
          simp [htype, hget, htypes, hset]
    · rintro ⟨htypes, hset⟩
      cases values with
      | nil => cases hset
      | cons v vs =>
        obtain ⟨htype, htypes⟩ := List.cons.inj htypes
        obtain ⟨hget, hset⟩ := List.cons.inj hset
        refine ⟨v, ?_, Except.bind_eq_ok_iff.mpr ⟨vs, ih.mpr ⟨htypes, hset⟩, rfl⟩⟩
        rw [htype, hget]
        exact checkType_eq_ok_iff.mpr ⟨rfl, rfl⟩

/-- **Records that set the key** give it, whatever else they set. -/
theorem select_keyColumns_eq_ok_iff (hs : s.Sound) :
    r.select s s.keyColumns = .ok key ↔ s.HasKey key ∧ s.keyColumns.map r.get? = key.map some := by
  rw [select_eq_ok_iff, Schema.map_columnType?_keyColumns hs, Schema.HasKey]
  refine and_congr_left fun _ => ?_
  rw [(List.map_injective_iff.mpr (Option.some_injective _)).eq_iff]
  exact eq_comm

/-! ## Rows -/

/-- A record that sets the key columns has a key. -/
theorem Sets.hasKey (h : r.Sets s s.keyCount key) : s.HasKey key :=
  h.types_eq

/-- The key of a full record. -/
theorem Sets.hasKey_take (hs : s.Sound) (h : r.Sets s s.columns.length values) :
    s.HasKey (values.take s.keyCount) := by
  rw [Schema.HasKey, List.map_take, h.types_eq, hs.length_eq, List.take_length]

/-- The columns of a full record after its key. -/
theorem Sets.hasOthers_drop (hs : s.Sound) (h : r.Sets s s.columns.length values) :
    s.HasOthers (values.drop s.keyCount) := by
  rw [Schema.HasOthers, List.map_drop, h.types_eq, hs.length_eq, List.take_length]

end Record

end PagedTables
