import PagedTables.Diagnostics
import PagedTables.Main
import PagedTables.Session
import PagedTables.Proofs.Action
import PagedTables.Proofs.FreeList.Node
import PagedTables.Proofs.FreeList.History
import PagedTables.Proofs.Pages.Lawful
import PagedTables.Proofs.FreeList.Steps
import PagedTables.Proofs.FreeList.Queue
import PagedTables.Proofs.FreeList.Fifo
import PagedTables.Proofs.FreeList.Intact
import PagedTables.Proofs.OrderedMap
import PagedTables.Proofs.Pages.File
import PagedTables.Proofs.Pages.Flush
import PagedTables.Proofs.Pages.Effects
import PagedTables.Proofs.Pages.Plain
import PagedTables.Proofs.Pages.Transparent
import PagedTables.Proofs.Snapshot.Chain
import PagedTables.Proofs.Snapshot.Stream
import PagedTables.Proofs.Snapshot.Walk
import PagedTables.Proofs.Damage
import PagedTables.Proofs.Checksum
import PagedTables.Proofs.Meta
import PagedTables.Proofs.Meta.Burst
import PagedTables.Proofs.Store.Checkpoint
import PagedTables.Proofs.Store.Publish
import PagedTables.Proofs.Store.Poised
import PagedTables.Proofs.Store.Commit
import PagedTables.Proofs.Store.Calls
import PagedTables.Proofs.Store.Reached
import PagedTables.Proofs.Store.Atomicity
import PagedTables.Proofs.Store.Interrupted
import PagedTables.Proofs.Store.Opened
import PagedTables.Proofs.Store.Ownership
import PagedTables.Proofs.Store.Operation
import PagedTables.Proofs.Store.Refinement
import PagedTables.Proofs.Keys.Order
import PagedTables.Proofs.Keys.Codec
import PagedTables.Proofs.Store.Lawful
import PagedTables.Proofs.FreeList.Frugal
import PagedTables.Proofs.Store.Rollback
import PagedTables.Proofs.Store.Growth
import PagedTables.Proofs.Store.Damaged
import PagedTables.Proofs.Store.Dangling
import PagedTables.Proofs.Tables.Layout
import PagedTables.Proofs.Tables.Rows
import PagedTables.Proofs.Tables.Catalog
import PagedTables.Proofs.Tables.Calls
import PagedTables.Proofs.Tables.Range
import PagedTables.Proofs.Tables.Client
import PagedTables.Proofs.Tables.Poison
import PagedTables.Proofs.Json.RoundTrip
import PagedTables.Proofs.Tables.Definition
import PagedTables.Proofs.Following
import PagedTables.Proofs.Tables.Following
import PagedTables.Proofs.Tables.Registry
import PagedTables.Proofs.Tables.Reading
import PagedTables.Proofs.Tables.Registration
import PagedTables.Proofs.Tables.Recorded
import PagedTables.Proofs.Tables.Logged
import PagedTables.Proofs.Tables.Allotment
import PagedTables.Proofs.Tables.History
import PagedTables.Proofs.Snapshot.Format
import PagedTables.Proofs.Tables.Whole
import PagedTables.Proofs.Tables.Undone
import PagedTables.Proofs.Tables.Healthy
import PagedTables.Proofs.Tables.Careful
import PagedTables.Proofs.Store.Cursor
import PagedTables.Proofs.Tables.RowKey
import PagedTables.Proofs.FreeList.Drain
import PagedTables.Proofs.Store.Blame
import PagedTables.Proofs.Store.Quiet
import PagedTables.Proofs.Tables.Quiet
import PagedTables.Proofs.Tables.Clauses
