/-
# Schemas built clause by clause

A schema is built from its name by clauses, each of which adds a column, sets the number of key
columns or declares an index. The primary index enters with the first declared one, and each later
clause keeps it over the key.

* `Schema.clause_comm` : clauses of different kinds change places, on every schema;
* `Schema.SameOrder.extend_eq` : only the order of clauses of one kind matters;
* `Schema.ofParts_extend` : what clauses add to the columns, the key and the declared indexes;
* `Schema.check_eq_firstIndex_iff` : which schemas are refused for their first index;
* `Schema.build_interleaved` : the schema that clauses build, which is never refused for its
  first index.
-/
import Mathlib
import PagedTables.Proofs.Tables.Record

namespace PagedTables

namespace Schema

/-! ## Clauses -/

/-- One step in building a schema. -/
inductive Clause where
  /-- Adds a column. -/
  | column (name : String) (type : ColumnType)
  /-- Sets the number of key columns. -/
  | keys (n : Nat)
  /-- Declares an index. -/
  | index (name : String) (columns : List String)
  deriving DecidableEq, Repr

namespace Clause

/-- The kinds of clauses. -/
inductive Kind where
  /-- Columns. -/
  | column
  /-- Numbers of key columns. -/
  | keys
  /-- Indexes. -/
  | index
  deriving DecidableEq, Repr

/-- The kind of a clause. -/
def kind : Clause → Kind
  | column .. => .column
  | keys .. => .keys
  | index .. => .index

/-- The column that a clause adds. -/
@[simp] def column? : Clause → Option (String × ColumnType)
  | column name type => some (name, type)
  | keys _ | index .. => none

/-- The number of key columns that a clause sets. -/
@[simp] def keys? : Clause → Option Nat
  | keys n => some n
  | column .. | index .. => none

/-- The index that a clause declares. -/
@[simp] def index? : Clause → Option IndexDef
  | index name columns => some ⟨name, columns⟩
  | column .. | keys _ => none

end Clause

/-- The schema with one more clause. -/
def clause (s : Schema) : Clause → Schema
  | .column name type => s.column name type
  | .keys n => s.keys n
  | .index name columns => s.index name columns

/-- The schema with more clauses, one after the other. -/
def extend (s : Schema) (clauses : List Clause) : Schema :=
  clauses.foldl clause s

/-- The schema that clauses build from a name. -/
def build (name : String) (clauses : List Clause) : Schema :=
  extend { name := name } clauses

/-! ## The primary index among others -/

/-- The indexes with the first one over a key, if that is the primary one. -/
def aligned (key : List String) : List IndexDef → List IndexDef
  | [] => []
  | first :: rest => (if first.name = primaryName then ⟨first.name, key⟩ else first) :: rest

/-- The indexes, or the primary one over a key where there are none. -/
def headed (key : List String) : List IndexDef → List IndexDef
  | [] => [⟨primaryName, key⟩]
  | first :: rest => first :: rest

/-- The primary index follows the key that came last. -/
@[simp] theorem aligned_aligned (key key' : List String) (indexes : List IndexDef) :
    aligned key (aligned key' indexes) = aligned key indexes := by
  cases indexes with
  | nil => rfl
  | cons first rest => by_cases h : first.name = primaryName <;> simp [aligned, h]

/-- An index may be declared before or after the first one is aligned. -/
@[simp] theorem aligned_headed_append (key key' : List String) (indexes : List IndexDef)
    (i : IndexDef) :
    aligned key (headed key' indexes ++ [i]) = headed key (aligned key indexes) ++ [i] := by
  cases indexes with
  | nil => simp [aligned, headed]
  | cons first rest => rfl

/-- Keeping the primary index in step changes the indexes only. -/
theorem syncPrimary_eq (s : Schema) :
    s.syncPrimary = { s with indexes := aligned s.keyColumns s.indexes } := by
  obtain ⟨name, columns, types, keyCount, keyPrefix, indexes⟩ := s
  cases indexes with
  | nil => rfl
  | cons first rest => by_cases h : first.name = primaryName <;> simp [syncPrimary, aligned, h]

/-- Adding the primary index changes the indexes only. -/
theorem fillPrimary_eq (s : Schema) :
    s.fillPrimary = { s with indexes := headed s.keyColumns s.indexes } := by
  obtain ⟨name, columns, types, keyCount, keyPrefix, indexes⟩ := s
  cases indexes <;> rfl

/-! ## Clauses in a different order -/

variable {clauses clauses' : List Clause}

/-- A further column is the last one. -/
theorem column_eq (s : Schema) (name : String) (type : ColumnType) :
    s.column name type =
      { s with
        columns := s.columns ++ [name]
        types := s.types ++ [type]
        indexes := aligned ((s.columns ++ [name]).take s.keyCount) s.indexes } :=
  syncPrimary_eq _

/-- The key columns are the first ones, and the primary index follows. -/
theorem keys_eq (s : Schema) (n : Nat) :
    s.keys n = { s with keyCount := n, indexes := aligned (s.columns.take n) s.indexes } :=
  syncPrimary_eq _

/-- A further index is the last one, behind the primary one. -/
theorem index_eq (s : Schema) (name : String) (columns : List String) :
    s.index name columns =
      { s with indexes := headed s.keyColumns s.indexes ++ [⟨name, columns⟩] } := by
  rw [index, fillPrimary_eq]

/-- A column and the number of key columns may be exchanged. -/
theorem column_keys (s : Schema) (name : String) (type : ColumnType) (n : Nat) :
    (s.column name type).keys n = (s.keys n).column name type := by
  simp only [column_eq, keys_eq, aligned_aligned]

/-- A column and an index may be exchanged. -/
theorem column_index (s : Schema) (name : String) (type : ColumnType) (label : String)
    (columns : List String) :
    (s.column name type).index label columns = (s.index label columns).column name type := by
  simp only [column_eq, index_eq, keyColumns, aligned_headed_append]

/-- The number of key columns and an index may be exchanged. -/
theorem keys_index (s : Schema) (n : Nat) (label : String) (columns : List String) :
    (s.keys n).index label columns = (s.index label columns).keys n := by
  simp only [keys_eq, index_eq, keyColumns, aligned_headed_append]

/-- **Clauses of different kinds change places**, whatever schema they are added to. -/
theorem clause_comm (s : Schema) {c d : Clause} (h : c.kind ≠ d.kind) :
    (s.clause c).clause d = (s.clause d).clause c := by
  cases c with
  | column name type =>
    cases d with
    | column => exact absurd rfl h
    | keys n => exact column_keys s name type n
    | index label columns => exact column_index s name type label columns
  | keys n =>
    cases d with
    | column name type => exact (column_keys s name type n).symm
    | keys => exact absurd rfl h
    | index label columns => exact keys_index s n label columns
  | index label columns =>
    cases d with
    | column name type => exact (column_index s name type label columns).symm
    | keys n => exact (keys_index s n label columns).symm
    | index => exact absurd rfl h

/-- A clause may come before all clauses of other kinds. -/
theorem extend_middle (s : Schema) {c : Clause} {before : List Clause}
    (h : ∀ d ∈ before, d.kind ≠ c.kind) (after : List Clause) :
    s.extend (before ++ c :: after) = s.extend (c :: (before ++ after)) := by
  induction before generalizing s with
  | nil => rfl
  | cons d before ih =>
    obtain ⟨hd, hbefore⟩ := List.forall_mem_cons.mp h
    calc s.extend (d :: before ++ c :: after)
        = (s.clause d).extend (before ++ c :: after) := rfl
      _ = (s.clause d).extend (c :: (before ++ after)) := ih _ hbefore
      _ = ((s.clause d).clause c).extend (before ++ after) := rfl
      _ = ((s.clause c).clause d).extend (before ++ after) := by rw [clause_comm s hd]
      _ = s.extend (c :: (d :: before ++ after)) := rfl

/-- The clauses of each kind are the same, in the same order. -/
def SameOrder (clauses clauses' : List Clause) : Prop :=
  ∀ kind, clauses.filter (·.kind = kind) = clauses'.filter (·.kind = kind)

/-- The first clause is the first of its kind in the other list as well, and what is left without
it is in the same order. -/
theorem SameOrder.exists_of_cons {c : Clause} {rest : List Clause}
    (h : SameOrder (c :: rest) clauses') :
    ∃ before after, clauses' = before ++ c :: after ∧ (∀ d ∈ before, d.kind ≠ c.kind) ∧
      SameOrder rest (before ++ after) := by
  have hkind := h c.kind
  rw [List.filter_cons_of_pos (by simp)] at hkind
  obtain ⟨before, after, rfl, hbefore, -, hafter⟩ := List.filter_eq_cons_iff.mp hkind.symm
  have hother : ∀ d ∈ before, d.kind ≠ c.kind := fun d hd => by simpa using hbefore d hd
  refine ⟨before, after, rfl, hother, fun kind => ?_⟩
  by_cases hc : c.kind = kind
  · subst hc
    rw [List.filter_append, List.filter_eq_nil_iff.mpr hbefore, hafter, List.nil_append]
  · have hrest := h kind
    rw [List.filter_append, List.filter_cons_of_neg (by simpa using hc),
      List.filter_cons_of_neg (by simpa using hc)] at hrest
    rw [List.filter_append, hrest]

/-- **Only the order of clauses of one kind matters**, on every schema. -/
theorem SameOrder.extend_eq (h : SameOrder clauses clauses') (s : Schema) :
    s.extend clauses = s.extend clauses' := by
  induction clauses generalizing s clauses' with
  | nil =>
    -- a clause of the other list would be found among those of its kind
    have hnil : clauses' = [] := by
      rw [List.eq_nil_iff_forall_not_mem]
      intro c hc
      have hfound : c ∈ clauses'.filter (·.kind = c.kind) := by simpa using hc
      rw [← h c.kind] at hfound
      cases hfound
    rw [hnil]
  | cons c rest ih =>
    obtain ⟨before, after, rfl, hbefore, hrest⟩ := h.exists_of_cons
    rw [extend_middle s hbefore]
    exact ih hrest (s.clause c)

/-! ## What clauses build -/

/-- The declared indexes behind the primary one over a key; no index if none is declared. -/
def withPrimary (key : List String) (declared : List IndexDef) : List IndexDef :=
  if declared = [] then [] else ⟨primaryName, key⟩ :: declared

/-- Indexes that are declared may have the name of the primary one, which still is the first. -/
@[simp] theorem aligned_withPrimary (key key' : List String) (declared : List IndexDef) :
    aligned key (withPrimary key' declared) = withPrimary key declared := by
  cases declared <;> rfl

/-- A further index is declared behind the others. -/
@[simp] theorem headed_withPrimary_append (key : List String) (declared : List IndexDef)
    (i : IndexDef) :
    headed key (withPrimary key declared) ++ [i] = withPrimary key (declared ++ [i]) := by
  cases declared <;> rfl

/-- The schema with some columns, a number of key columns and some declared indexes. -/
def ofParts (name : String) (columns : List (String × ColumnType)) (keyCount : Nat)
    (declared : List IndexDef) : Schema where
  name := name
  columns := columns.map Prod.fst
  types := columns.map Prod.snd
  keyCount := keyCount
  indexes := withPrimary ((columns.map Prod.fst).take keyCount) declared

variable {name : String} {columns : List (String × ColumnType)} {keyCount : Nat}
variable {declared : List IndexDef}

/-- A clause adds its part. -/
theorem ofParts_clause (c : Clause) :
    (ofParts name columns keyCount declared).clause c =
      ofParts name (columns ++ c.column?.toList) (c.keys?.getD keyCount)
        (declared ++ c.index?.toList) := by
  cases c with
  | column column type =>
    rw [clause, column_eq]
    simp [ofParts]
  | keys n =>
    rw [clause, keys_eq]
    simp [ofParts]
  | index label columns =>
    rw [clause, index_eq]
    simp [ofParts, keyColumns]

/-- **Clauses add their parts**, those of each kind in their order. -/
theorem ofParts_extend (clauses : List Clause) :
    (ofParts name columns keyCount declared).extend clauses =
      ofParts name (columns ++ clauses.filterMap Clause.column?)
        ((clauses.filterMap Clause.keys?).getLastD keyCount)
        (declared ++ clauses.filterMap Clause.index?) := by
  induction clauses generalizing columns keyCount declared with
  | nil => simp [extend]
  | cons c rest ih =>
    have hrest : (ofParts name columns keyCount declared).extend (c :: rest) =
        ((ofParts name columns keyCount declared).clause c).extend rest := rfl
    rw [hrest, ofParts_clause, ih]
    cases c with
    | column label type => simp [List.filterMap_cons]
    | keys n =>
      -- a later number of key columns takes the place of this one
      have hlast (later : List Nat) : (n :: later).getLastD keyCount = later.getLastD n :=
        List.getLastD_cons ..
      simp only [List.filterMap_cons, Clause.keys?, hlast]
      simp
    | index label columns => simp [List.filterMap_cons]

/-! ## The rule on the first index -/

/-- The check of the columns does not refuse the first index. -/
theorem checkColumns_ne_firstIndex (seen columns : List String) :
    checkColumns seen columns ≠ .error .firstIndex := by
  induction columns generalizing seen with
  | nil => simp [checkColumns]
  | cons c rest ih =>
    rw [checkColumns]
    split
    · simp
    · split
      · simp
      · exact ih _

theorem checkIndexes_ne_firstIndex (columns seen : List String) (indexes : List IndexDef) :
    checkIndexes columns seen indexes ≠ .error .firstIndex := by
  induction indexes generalizing seen with
  | nil => simp [checkIndexes]
  | cons i rest ih =>
    rw [checkIndexes]
    split
    · simp
    · split
      · simp
      · split
        · simp
        · exact ih _

/-- **A schema is refused for its first index** just if it breaks no rule on its name, its columns
and their types, and its first index is not over the key. -/
theorem check_eq_firstIndex_iff {s : Schema} :
    s.check = .error .firstIndex ↔ s.name.isEmpty = false ∧ s.columns ≠ [] ∧
      s.columns.length = s.types.length ∧ (1 ≤ s.keyCount ∧ s.keyCount ≤ s.columns.length) ∧
      checkColumns [] s.columns = .ok () ∧
      ∃ i, s.indexes.head? = some i ∧ i.columns ≠ s.keyColumns := by
  unfold check
  simp only [Except.guard_eq_error_iff, Except.bind_eq_error_iff, checkColumns_ne_firstIndex,
    checkIndexes_ne_firstIndex, Option.any_eq_true, decide_eq_true_eq, Bool.not_eq_true,
    List.isEmpty_eq_false_iff, not_or, not_lt, ne_eq, not_not, reduceCtorEq, Unique.exists_iff,
    and_false, and_true, false_or, or_false]

/-- An index that is entered by hand breaks the rule. -/
example :
    let s := build "users" [.column "id" .int64, .column "name" .bytes]
    { s with indexes := [⟨"wrong", ["name"]⟩] }.check = .error .firstIndex := by
  decide

/-! ## Schemas that clauses build -/

/-- The first index is the primary one, if there is one. -/
theorem eq_primaryIndex_of_head? {i : IndexDef}
    (h : (ofParts name columns keyCount declared).indexes.head? = some i) :
    i = (ofParts name columns keyCount declared).primaryIndex := by
  cases declared with
  | nil => cases h
  | cons => exact (Option.some.inj h).symm

/-- **Building a schema from clauses.** The columns, their types and the declared indexes are those
of the clauses in their order, and the number of key columns is the last one that is set. There
is no index if none is declared, and else the primary one over the key columns that there are,
which stands before all that are declared. So the order of clauses of different kinds does not
matter, and a schema that clauses build is never refused because its first index is not over the
key. -/
theorem build_interleaved (name : String) (clauses : List Clause) :
    let columns := clauses.filterMap Clause.column?
    let keyCount := (clauses.filterMap Clause.keys?).getLastD 1
    let declared := clauses.filterMap Clause.index?
    build name clauses =
      { name := name
        columns := columns.map Prod.fst
        types := columns.map Prod.snd
        keyCount := keyCount
        keyPrefix := 0
        indexes :=
          if declared = [] then []
          else ⟨"primary", (columns.map Prod.fst).take (min keyCount columns.length)⟩ :: declared } ∧
    (∀ clauses', SameOrder clauses clauses' → build name clauses' = build name clauses) ∧
    (build name clauses).check ≠ .error .firstIndex := by
  intro columns keyCount declared
  have hbuild : build name clauses = ofParts name columns keyCount declared := by
    show (ofParts name [] 1 []).extend clauses = _
    rw [ofParts_extend, List.nil_append, List.nil_append]
  refine ⟨?_, fun clauses' h => (h.extend_eq _).symm, fun hcheck => ?_⟩
  · have hkey : (columns.map Prod.fst).take (min keyCount columns.length) =
        (columns.map Prod.fst).take keyCount := by
      rw [← List.length_map Prod.fst, ← List.take_eq_take_min]
    rw [hkey]
    exact hbuild
  · rw [hbuild] at hcheck
    obtain ⟨-, -, -, -, -, i, hi, hne⟩ := check_eq_firstIndex_iff.mp hcheck
    rw [eq_primaryIndex_of_head? hi] at hne
    exact hne rfl

/-- An index with the name of the primary one is declared first of all, and then a key of two
columns that are not there yet. The order of the clauses does not matter, and what the schema is
refused for is the name of the second index. -/
theorem build_interleaved_of_late_columns :
    let user : Clause := .column "user" .bytes
    let seq : Clause := .column "seq" .int64
    let payload : Clause := .column "payload" .bytes
    let byUser : Clause := .index "primary" ["user"]
    let bySeq : Clause := .index "by_seq" ["seq"]
    let early := [byUser, .keys 9, user, .keys 2, seq, bySeq, payload]
    let late := [user, seq, payload, byUser, bySeq, .keys 9, .keys 2]
    SameOrder early late ∧
      build "events" late = build "events" early ∧
      (build "events" early).columns = ["user", "seq", "payload"] ∧
      (build "events" early).keyCount = 2 ∧
      (build "events" early).indexes =
        [⟨"primary", ["user", "seq"]⟩, ⟨"primary", ["user"]⟩, ⟨"by_seq", ["seq"]⟩] ∧
      (build "events" early).check ≠ .error .firstIndex ∧
      (build "events" early).check = .error (.duplicateIndex "primary") := by
  intro user seq payload byUser bySeq early late
  obtain ⟨hbuild, hsame, hcheck⟩ := build_interleaved "events" early
  have horder : SameOrder early late := fun kind => by cases kind <;> rfl
  refine ⟨horder, hsame late horder, ?_, ?_, ?_, hcheck, by decide⟩
  all_goals rw [hbuild]; rfl

end Schema

end PagedTables
