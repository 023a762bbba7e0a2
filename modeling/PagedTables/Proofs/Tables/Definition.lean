/-
# Stored schemas

The catalog keeps a schema as text. A schema that breaks no rule is read back from its row exactly
as it was, whatever its names are, so that nothing that was accepted is refused later.

* `Schema.ofJson?_toJson` : a schema from its JSON form;
* `Schema.Storable` : the schemas that tables have;
* `Database.schemaFromRow_of_storable` : a schema from its row.
-/
import Mathlib
import PagedTables.Proofs.Json.RoundTrip
import PagedTables.Proofs.Tables.Catalog

namespace PagedTables

/-! ## JSON forms -/

namespace Json

theorem whole_text (t : String) : (text t).Whole :=
  trivial

theorem whole_nat {k : Nat} (h : k ≤ maxWord64) : (nat k).Whole :=
  ⟨k, rfl, h⟩

theorem whole_items {α : Type} {write : α → Json} {l : List α} (h : ∀ a ∈ l, (write a).Whole) :
    (array (l.map write)).Whole := by
  show WholeItems (l.map write)
  induction l with
  | nil => trivial
  | cons a l ih =>
    exact ⟨h a List.mem_cons_self, ih fun b hb => h b (List.mem_cons_of_mem _ hb)⟩

theorem whole_record {fields : List (String × Json)} (h : ∀ f ∈ fields, f.2.Whole) :
    (record fields).Whole := by
  show WholeFields (fields.map fun f => (Bytes.ofText f.1, f.2))
  induction fields with
  | nil => trivial
  | cons f fields ih =>
    exact ⟨h f List.mem_cons_self, ih fun g hg => h g (List.mem_cons_of_mem _ hg)⟩

end Json

namespace ColumnType

theorem whole_toJson (t : ColumnType) : t.toJson.Whole := by
  cases t <;> exact Json.whole_nat (by decide)

/-- A column type is read back from its definition. -/
theorem ofJson?_toJson (t : ColumnType) : ofJson? t.toJson = some t := by
  have htag : t.tag ≤ maxWord32 := by cases t <;> decide
  rw [ofJson?, toJson, Json.nat?_nat htag]
  exact ofTag?_eq_some_iff.mpr rfl

end ColumnType

namespace IndexDef

theorem whole_toJson (i : IndexDef) : i.toJson.Whole := by
  refine Json.whole_record ?_
  simp only [List.mem_cons, List.not_mem_nil, or_false, forall_eq_or_imp, forall_eq]
  exact ⟨Json.whole_text _, Json.whole_items fun _ _ => Json.whole_text _⟩

/-- An index is read back from its definition. -/
theorem ofJson?_toJson (i : IndexDef) : ofJson? i.toJson = some i := by
  have hnames : ["name", "columns"].Nodup := by decide
  have hfields : i.toJson.fields? ["name", "columns"] =
      some [some (.text i.name), some (.array (i.columns.map .text))] :=
    Json.fields?_record hnames
  have hcolumns : (Json.array (i.columns.map .text)).list? Json.text? = some i.columns :=
    Json.list?_map fun t _ => Json.text?_text t
  rw [ofJson?, hfields]
  simp only [Option.bind_eq_bind, Option.bind_some, Json.text?_text, hcolumns]
  rfl

end IndexDef

namespace Schema

variable {s : Schema}

/-- A definition is whole if the number of key columns is a word. -/
theorem whole_toJson (h : s.keyCount ≤ maxWord64) : s.toJson.Whole := by
  have hprefix : s.keyPrefix.toNat ≤ maxWord64 :=
    Nat.le_trans (Nat.le_of_lt s.keyPrefix.toNat_lt) (by decide)
  refine Json.whole_record ?_
  simp only [List.mem_cons, List.not_mem_nil, or_false, forall_eq_or_imp, forall_eq]
  exact ⟨Json.whole_text _, Json.whole_items fun _ _ => Json.whole_text _,
    Json.whole_items fun t _ => t.whole_toJson, Json.whole_nat h, Json.whole_nat hprefix,
    Json.whole_items fun i _ => i.whole_toJson⟩

/-- **A schema** is found in its JSON form. -/
theorem ofJson?_toJson (h : s.keyCount ≤ maxWord64) : ofJson? s.toJson = some s := by
  have hnames : ["name", "cols", "types", "pkeys", "prefix", "indexes"].Nodup := by decide
  have hfields : s.toJson.fields? ["name", "cols", "types", "pkeys", "prefix", "indexes"] =
      some [some (.text s.name), some (.array (s.columns.map .text)),
        some (.array (s.types.map ColumnType.toJson)), some (.nat s.keyCount),
        some (.nat s.keyPrefix.toNat), some (.array (s.indexes.map IndexDef.toJson))] :=
    Json.fields?_record hnames
  have hcolumns : (Json.array (s.columns.map .text)).list? Json.text? = some s.columns :=
    Json.list?_map fun t _ => Json.text?_text t
  have htypes : (Json.array (s.types.map ColumnType.toJson)).list? ColumnType.ofJson? =
      some s.types := Json.list?_map fun t _ => t.ofJson?_toJson
  have hprefix : (Json.nat s.keyPrefix.toNat).nat? maxWord32 = some s.keyPrefix.toNat :=
    Json.nat?_nat (Nat.le_pred_of_lt s.keyPrefix.toNat_lt)
  have hindexes : (Json.array (s.indexes.map IndexDef.toJson)).list? IndexDef.ofJson? =
      some s.indexes := Json.list?_map fun i _ => i.ofJson?_toJson
  rw [ofJson?, hfields]
  simp only [Option.bind_eq_bind, Option.bind_some, Json.text?_text, hcolumns, htypes,
    Json.nat?_nat h, Json.optional, hprefix, hindexes, UInt32.ofNat_toNat]
  rfl

/-! ## Rows of the catalog -/

/-- The schema of a table that exists: it breaks no rule, its prefix is that of no built-in table,
and its numbers are words. -/
structure Storable (s : Schema) : Prop where
  check_eq : s.check = .ok ()
  first_le : firstPrefix ≤ s.keyPrefix
  word : s.keyCount ≤ maxWord64

theorem fillPrimary_keyCount (s : Schema) : s.fillPrimary.keyCount = s.keyCount := by
  unfold fillPrimary
  split <;> rfl

/-- An accepted schema can be stored under a prefix. -/
theorem storable_of_check {p : UInt32} (h : s.check = .ok ()) (hp : firstPrefix ≤ p)
    (hword : s.keyCount ≤ maxWord64) : (s.fillPrimary.placed p).Storable where
  check_eq := check_fillPrimary h
  first_le := hp
  word := by
    show s.fillPrimary.keyCount ≤ maxWord64
    rwa [fillPrimary_keyCount]

/-- **A schema is read back** from its definition. -/
theorem Storable.parse_toJson (h : s.Storable) :
    Json.parseAs ofJson? s.toJson.compact = .ok s := by
  rw [Json.parseAs, Json.parse_compact (whole_toJson h.word), Action.except_ok_bind,
    ofJson?_toJson h.word]
  rfl

end Schema

namespace Database

/-- The row of a schema in the catalog, as a record. -/
def catalogRecord (s : Schema) : Record :=
  Record.ofRow Schema.catalog (.ofText s.name :: schemaRow s)

/-- **A stored schema** is read back from its row. -/
theorem schemaFromRow_of_storable {s : Schema} (h : s.Storable) :
    schemaFromRow s.name (catalogRecord s) = .ok s := by
  have hsource : bytesIn (catalogRecord s) "def" = some s.toJson.compact := rfl
  have hconsistent : ¬(s.name ≠ s.name ∨ s.keyPrefix < Schema.firstPrefix) := by
    rintro (hname | hprefix)
    · exact hname rfl
    · exact absurd h.first_le (UInt32.not_le.mpr hprefix)
  rw [schemaFromRow, hsource]
  simp only [h.parse_toJson]
  rw [if_neg hconsistent, h.check_eq]

/-- The name in the row of a schema. -/
theorem nameIn_catalogRecord (s : Schema) : nameIn (catalogRecord s) = .ok s.name := by
  have hname : bytesIn (catalogRecord s) "name" = some (Bytes.ofText s.name) := rfl
  rw [nameIn, hname]
  simp only [Bytes.toTextLossy_ofText]

end Database

end PagedTables
