import Backfill.Graph.Address
import Backfill.Graph.Server
import Backfill.Settings
import Backfill.Terminal

/-!
# Graphs as stores

What the commands need of a graph: to connect, to write a row and to tell the coverage of a kind.
The commands work with any store; the one here passes statements to a graph. A statement that fails
for a passing reason is run again.
-/

namespace Backfill.Graph

/-- A graph as the commands see it. Each operation may change the state, also one that fails. -/
structure Store (σ : Type) where
  /-- What is wrong with the address of the graph. No connection is made before it is in order. -/
  address : Except Interruption Unit
  connect : σ → Except Failure Unit × σ
  write : Sync.Writer σ
  coverage : Kind → σ → Except Failure Coverage × σ

/-- The text of an error that a graph reports. -/
def serverError (code message : String) : Failure :=
  { text := "Neo4j error " ++ "`" ++ code ++ "`: " ++ message }

/-- The text of a result that breaks off. -/
def interruption (message : String) : Failure :=
  { text := "unexpected response for PULL: Ok(Failure(Failure \x7b metadata: BoltMap \x7b value: \x7b" ++
      "BoltString \x7b value: \"message\" \x7d: String(BoltString \x7b value: " ++
      Text.quoted message ++ " \x7d)\x7d \x7d \x7d))" }

/-- Whether an error says no more than that its time was wrong: another server of a cluster has to be
asked, the login has to be renewed, or the graph is busy. The two that come with a transaction that
was ended on purpose do not. -/
def isPassing (code : String) : Bool :=
  match code.splitOn "." with
  | _ :: "ClientError" :: "Cluster" :: "NotALeader" :: _ => true
  | _ :: "ClientError" :: "General" :: "ForbiddenOnReadOnlyDatabase" :: _ => true
  | _ :: "ClientError" :: "Security" :: "AuthorizationExpired" :: _ => true
  | _ :: "TransientError" :: _ :: _ :: _ =>
    code != "Neo.TransientError.Transaction.LockClientStopped" &&
      code != "Neo.TransientError.Transaction.Terminated"
  | _ => false

def Reply.isPassing : Reply → Bool
  | fail code _ => Graph.isPassing code
  | _ => false

namespace Server

/-- How often the entries of the script that can be used up may be used yet. -/
def usesLeft (server : Server) : Nat :=
  server.script.foldr (fun e uses => e.left.getD 0 + uses) 0

/-- Runs a statement until it is answered for good. An entry of the script that is never used up
would have it run for ever; the reply of such an entry stands. -/
def settle (database : String) (s : Statement) (server : Server) : Reply × Server :=
  let next := server.run database s
  if next.1.isPassing ∧ next.2.usesLeft < server.usesLeft then settle database s next.2 else next
termination_by server.usesLeft
decreasing_by exact And.right ‹_›

/-- Runs a statement and fetches its result. -/
def query (database : String) (s : Statement) (server : Server) :
    Except Failure (List Record) × Server :=
  let (reply, server) := server.settle database s
  let result := match reply with
    | .records records => .ok records
    | .fail code message => .error ((serverError code message).within "Neo4j query failed")
    | .interrupted message =>
      .error ((interruption message).within "Failed to fetch Neo4j result row")
  (result, server)

/-- The whole number in a field of a record. -/
def readWhole (r : Record) (field : String) : Except Failure Int :=
  match r.whole field with
  | .ok n => .ok n
  | .error fault => .error { text := "Failed to get field '" ++ field ++ "': " ++ fault.text }

/-- The whole number in a field of the first record, if there is one. -/
def queryCount (database : String) (s : Statement) (field : String) (server : Server) :
    Except Failure (Option Int) × Server :=
  let (result, server) := server.query database s
  let count := do
    match ← result with
    | [] => return none
    | record :: _ => return some (← readWhole record field)
  (count, server)

/-- Checks the address of the settings. -/
def address (settings : GraphSettings) : Except Interruption Unit :=
  (Address.check settings.uri).mapError fun fault =>
    fault.interruption.within "Failed to create Neo4j connection pool"

/-- Connects: a ping must be answered. -/
def connect (settings : GraphSettings) (server : Server) : Except Failure Unit × Server :=
  let (reply, server) := (server.hello settings.user settings.password).settle settings.database .ping
  let silent (f : Failure) : Failure :=
    f.within ("Neo4j at " ++ settings.uri ++ " is not responding to queries")
  match reply with
  | .records _ => (.ok (), server)
  | .fail code message => (.error (silent (serverError code message)), server)
  | .interrupted _ => (.error (silent (serverError "" "")), server)

/-- Writes a row: the number of nodes that it matches, 0 if the graph does not tell. -/
def write (database : String) : Sync.Writer Server := fun d row server =>
  let (count, server) := server.queryCount database (.ofRow d row) "matched"
  (count.map (·.getD 0), server)

/-- The coverage of a kind; all zero if the graph does not tell. -/
def coverage (database : String) (kind : Kind) (server : Server) :
    Except Failure Coverage × Server :=
  let d := kind.descriptor
  let (result, server) := server.query database (.coverage d)
  let coverage : Except Failure Coverage := do
    let records ← result.mapError fun f => f.within ("Failed to read coverage for " ++ d.label)
    match records with
    | [] => return { kind := kind, total := 0, withProperty := 0 }
    | record :: _ =>
      let total ← readWhole record "total"
      let withProperty ← readWhole record "with_property"
      return { kind := kind, total := total, withProperty := withProperty }
  (coverage, server)

/-- A graph as a store. -/
def store (settings : GraphSettings) : Store Server where
  address := address settings
  connect := connect settings
  write := write settings.database
  coverage := coverage settings.database

end Server

end Backfill.Graph
