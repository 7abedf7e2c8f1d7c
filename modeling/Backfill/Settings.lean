import Backfill.Sync.Run

/-!
# Settings

What the program needs to know of the two stores, and how a run deals with failing writes. All of
it has a default.
-/

namespace Backfill

/-- How the relational source is reached. -/
structure SourceSettings where
  host : String := "localhost"
  port : UInt16 := 5432
  database : String := "crates"
  user : String := "postgres"
  password : String := ""
deriving DecidableEq, Repr

/-- How the graph is reached. -/
structure GraphSettings where
  uri : String := "bolt://localhost:7687"
  user : String := "neo4j"
  password : String := ""
  database : String := "neo4j"
deriving DecidableEq, Repr

structure SyncSettings where
  retry : RetryPolicy := {}
  failureMode : Sync.FailureMode := .abort
deriving DecidableEq, Repr

structure Settings where
  source : SourceSettings := {}
  graph : GraphSettings := {}
  sync : SyncSettings := {}
deriving DecidableEq, Repr

/-- The options of a run that the settings ask for. -/
def SyncSettings.options (s : SyncSettings) : Sync.Options :=
  { retry := s.retry, failureMode := s.failureMode }

end Backfill
