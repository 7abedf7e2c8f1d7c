import Backfill.Retry
import Backfill.Row
import Backfill.Sync.Report
import Backfill.Text.Quoted

/-!
# Events

Each thing worth a line in the log is an event. An event has a level, names the part of the program
that reports it, and carries a message with named values.
-/

namespace Backfill

inductive Level where
  | debug
  | info
  | warn
  | error
deriving DecidableEq, Repr

/-- Levels by weight. -/
def Level.rank : Level → Nat
  | debug => 1
  | info => 2
  | warn => 3
  | error => 4

def Level.name : Level → String
  | debug => "DEBUG"
  | info => "INFO"
  | warn => "WARN"
  | error => "ERROR"

/-- The value of a field of an event. -/
inductive FieldValue where
  /-- A text that is shown as it is. -/
  | shown (text : String)
  /-- A text that a log line quotes. -/
  | string (text : String)
  | number (value : Int)
  | flag (value : Bool)
deriving DecidableEq, Repr

inductive Event where
  | sourceConnected (host : String) (port : UInt16) (database : String)
  | rowsCounted (kind : Kind) (count : Int)
  | sourceClosed
  /-- Connections to the graph are to be had, so many at a time. -/
  | poolCreated (size : Nat)
  /-- A connection to the graph is about to be made. -/
  | connectionOpening
  | graphConnected (uri database : String)
  | runStarted (kind : Kind) (dryRun : Bool)
  /-- A dry run leaves out a write. -/
  | writeOmitted (row : Row)
  | retrying (key : Key) (attempt attempts : UInt32) (delay : UInt64) (error : String)
  | noMatch (label : String) (key : Key)
  | oneMatch (label : String) (key : Key)
  | manyMatches (label : String) (key : Key) (matched : Int)
  | rowSkipped (row : Sync.SkippedRow)
  | runCompleted (report : Sync.Report)
deriving DecidableEq

namespace Event

def level : Event → Level
  | sourceConnected .. | poolCreated .. | connectionOpening | graphConnected .. | runStarted ..
  | runCompleted .. => .info
  | rowsCounted .. | sourceClosed | writeOmitted .. | oneMatch .. => .debug
  | retrying .. | noMatch .. | manyMatches .. | rowSkipped .. => .warn

/-- The part of the program that reports the event. -/
def target : Event → String
  | sourceConnected .. | rowsCounted .. | sourceClosed => "crategraph_db::client"
  | poolCreated .. | connectionOpening => "neo4rs::pool"
  | graphConnected .. => "crategraph_graph::client"
  | runStarted .. | writeOmitted .. | retrying .. | noMatch .. | oneMatch .. | manyMatches ..
  | rowSkipped .. | runCompleted .. => "crategraph_graph::sync"

def message : Event → String
  | sourceConnected .. => "Connected to PostgreSQL"
  | rowsCounted .. => "Counted source rows"
  | sourceClosed => "PostgreSQL connection closed"
  | poolCreated size => "creating connection pool with max size " ++ Text.nat size
  | connectionOpening => "creating new connection..."
  | graphConnected .. => "Connected to Neo4j"
  | runStarted .. => "Starting property sync"
  | writeOmitted .. => "Dry run, skipping write"
  | retrying .. => "Graph write failed, retrying"
  | noMatch .. => "No node matched"
  | oneMatch .. => "Synced created_at"
  | manyMatches .. => "Duplicate natural key in graph"
  | rowSkipped .. => "Skipping row"
  | runCompleted .. => "Property sync complete"

/-- The named values of an event, in order. -/
def fields : Event → List (String × FieldValue)
  | sourceConnected host port database =>
    [("host", .shown host), ("port", .number port.toNat), ("database", .shown database)]
  | rowsCounted kind count => [("kind", .shown kind.name), ("count", .number count)]
  | sourceClosed | poolCreated .. | connectionOpening => []
  | graphConnected uri database => [("uri", .shown uri), ("database", .shown database)]
  | runStarted kind dryRun =>
    [("kind", .shown kind.name), ("label", .string kind.label), ("dry_run", .flag dryRun)]
  | writeOmitted row =>
    [("key", .shown row.key.text), ("created_at", .shown row.createdAt.longForm)]
  | retrying key attempt attempts delay error =>
    [("key", .shown key.text), ("attempt", .number attempt.toNat),
      ("max_attempts", .number attempts.toNat), ("delay_ms", .number delay.toNat),
      ("error", .shown error)]
  | noMatch label key | oneMatch label key =>
    [("label", .string label), ("key", .shown key.text)]
  | manyMatches label key matched =>
    [("label", .string label), ("key", .shown key.text), ("matched", .number matched)]
  | rowSkipped row => [("key", .shown row.key.text), ("error", .shown row.error)]
  | runCompleted report =>
    [("kind", .shown report.kind.name), ("rows", .number report.rowsRead),
      ("nodes_updated", .number report.nodesUpdated), ("missing", .number report.missing),
      ("duplicates", .number report.duplicates), ("failed", .number report.skipped.length)]

end Event

end Backfill
