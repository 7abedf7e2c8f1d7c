import Backfill.CommandLine.Invocation
import Backfill.Graph.Store
import Backfill.Source.Session

/-!
# Commands

The two commands. `sync` runs the kinds of its target one after the other; a run that stops ends the
command, skipped rows only make it fail at the end. `status` compares the rows of the source with
the coverage of the graph. Both work with any graph.
-/

namespace Backfill.Command

open CommandLine (Invocation SyncArguments)

variable {σ : Type}

/-- A failure of the source, as a failure of the command. -/
def ofSource (context : String) (result : Except Source.Fault α) : Work σ α :=
  (Work.orFail (result.mapError (·.failure))).within context

/-- Connects to the graph. As writes follow each other, one connection is enough. -/
def connectGraph (graph : Graph.Store σ) : Work σ Unit := do
  Work.ofExcept graph.address
  Work.report (.poolCreated 1)
  Work.report .connectionOpening
  Work.perform graph.connect

/-- Opens both stores, the source first. -/
def openStores (settings : Settings) (server : Source.Server) (graph : Graph.Store σ) :
    Work σ Source.Session := do
  let session ← ofSource "Failed to connect to PostgreSQL"
    (← Source.openSession settings.source server)
  (connectGraph graph).within "Failed to connect to Neo4j"
  Work.report (.graphConnected settings.graph.uri settings.graph.database)
  return session

/-- What a run leaves in the journal: its events and, if asked for, a line for each write. -/
def traceJournal (colour echo : Bool) (t : Sync.Trace) : Journal :=
  { events := t.events
    lines := if echo then t.written.map fun (row, n) => Terminal.writeLine colour row n else [] }

/-- Runs a kind over a feed. A feed that breaks off takes the run with it, unless the run has
stopped before. -/
def runFeed (colour echo : Bool) (w : Sync.Writer σ) (o : Sync.Options) (kind : Kind)
    (feed : Source.Feed) : Work σ Sync.Report := fun s =>
  if feed.broken then
    let leg := Sync.steps w o kind (.start kind s) feed.items
    let started : Sync.Trace := { events := [.runStarted kind o.dryRun] }
    { result := .error (match leg.stop with
        | some e => .failure e.failure
        | none => .crash .dateOutOfCalendar)
      state := leg.standing.state
      journal := traceJournal colour echo (started ++ leg.trace) }
  else
    let outcome := Sync.run w o kind s feed.items
    { result := outcome.result.mapError fun e => .failure e.failure
      state := outcome.state
      journal := traceJournal colour echo outcome.trace }

/-- Runs a kind and prints its report. -/
def syncKind (colour echo : Bool) (session : Source.Session) (w : Sync.Writer σ)
    (o : Sync.Options) (kind : Kind) : Work σ Sync.Report := do
  Work.print
    [Text.Paint.bold.apply colour "Syncing" ++ " " ++ Text.Paint.cyan.apply colour kind.label]
  let feed ← Source.readRows session kind
  let report ← runFeed colour echo w o kind feed
  Work.print (Terminal.reportLines colour report)
  return report

/-- Runs kinds one after the other: the number of rows that were skipped. -/
def syncKinds (colour echo : Bool) (session : Source.Session) (w : Sync.Writer σ)
    (o : Sync.Options) : List Kind → Work σ Nat
  | [] => return 0
  | kind :: kinds => do
    let report ← syncKind colour echo session w o kind
    let later ← syncKinds colour echo session w o kinds
    return report.skipped.length + later

/-- The command that copies creation dates to the graph. -/
def sync (colour : Bool) (settings : Settings) (arguments : SyncArguments) (server : Source.Server)
    (graph : Graph.Store σ) : Work σ Unit := do
  let o := arguments.options settings.sync
  let session ← openStores settings server graph
  if o.dryRun then
    Work.print [Text.Paint.yellow.apply colour "Dry run: no graph writes will be issued."]
  let skipped ← syncKinds colour arguments.echo session graph.write o arguments.target.kinds
  Source.closeSession
  if skipped > 0 then
    Work.fail { text := Text.nat skipped ++ " row(s) failed to sync" }

/-- The line of the status table for a kind. -/
def statusLine (session : Source.Session) (graph : Graph.Store σ) (kind : Kind) :
    Work σ StatusLine := do
  let rows ← ofSource ("Failed to count " ++ kind.name ++ " rows")
    (← Source.countRows session kind)
  let coverage ← Work.perform (graph.coverage kind)
  return { sourceRows := rows, coverage := coverage }

/-- The lines of the status table for some kinds. -/
def statusLines (session : Source.Session) (graph : Graph.Store σ) :
    List Kind → Work σ (List StatusLine)
  | [] => return []
  | kind :: kinds => do
    let line ← statusLine session graph kind
    return line :: (← statusLines session graph kinds)

/-- The command that compares source and graph. -/
def status (colour : Bool) (settings : Settings) (server : Source.Server) (graph : Graph.Store σ) :
    Work σ Unit := do
  let session ← openStores settings server graph
  let lines ← statusLines session graph Kind.all
  Source.closeSession
  Work.print (Terminal.statusLines colour lines)

/-- Carries out an invocation. The graph is the one that the settings tell how to reach. -/
def execute (colour : Bool) (fs : Files) (i : Invocation) (server : Source.Server)
    (graph : GraphSettings → Graph.Store σ) : Work σ Unit := do
  let settings ← Work.orFail (i.settings fs)
  match i.command with
  | .sync arguments => sync colour settings arguments server (graph settings.graph)
  | .status => status colour settings server (graph settings.graph)

end Backfill.Command
