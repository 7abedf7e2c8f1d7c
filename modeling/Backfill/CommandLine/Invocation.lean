import Backfill.Settings.File

/-!
# Invocations

What a command line asks for: a command with its own options, and values that override the
settings.
-/

namespace Backfill.CommandLine

/-- Which entities a run is for. -/
inductive Target where
  | crates
  | versions
  | all
deriving DecidableEq, Repr

namespace Target

def name : Target → String
  | crates => "crates"
  | versions => "versions"
  | all => "all"

def ofName? (name : String) : Option Target :=
  [crates, versions, all].find? (·.name = name)

/-- The kinds of a target, in the order in which they are run. -/
def kinds : Target → List Kind
  | crates => [.crate]
  | versions => [.version]
  | all => Kind.all

end Target

structure SyncArguments where
  target : Target
  dryRun : Bool := false
  skipFailed : Bool := false
  maxAttempts : Option UInt32 := none
  /-- Print a line for each write. -/
  echo : Bool := false
deriving DecidableEq, Repr

/-- The options of a run: the settings, and what the command line says beyond them. -/
def SyncArguments.options (a : SyncArguments) (s : SyncSettings) : Sync.Options :=
  let o := s.options
  { retry := { o.retry with maxAttempts := a.maxAttempts.getD o.retry.maxAttempts }
    failureMode := if a.skipFailed then .skip else o.failureMode
    dryRun := a.dryRun }

inductive Command where
  | status
  | sync (arguments : SyncArguments)
deriving DecidableEq, Repr

/-- Values that take the place of settings. -/
structure Overrides where
  sourceHost : Option String := none
  sourcePort : Option UInt16 := none
  sourceDatabase : Option String := none
  sourceUser : Option String := none
  sourcePassword : Option String := none
  graphUri : Option String := none
  graphUser : Option String := none
  graphPassword : Option String := none
  graphDatabase : Option String := none
deriving DecidableEq, Repr

/-- The settings with what is overridden. -/
def Overrides.apply (o : Overrides) (s : Settings) : Settings :=
  { s with
    source :=
      { host := o.sourceHost.getD s.source.host
        port := o.sourcePort.getD s.source.port
        database := o.sourceDatabase.getD s.source.database
        user := o.sourceUser.getD s.source.user
        password := o.sourcePassword.getD s.source.password }
    graph :=
      { uri := o.graphUri.getD s.graph.uri
        user := o.graphUser.getD s.graph.user
        password := o.graphPassword.getD s.graph.password
        database := o.graphDatabase.getD s.graph.database } }

structure Invocation where
  verbose : Bool
  config : Option String
  logFile : Option String
  overrides : Overrides
  command : Command
deriving DecidableEq, Repr

/-- The settings of an invocation: those of its file, or the defaults, and what it overrides. -/
def Invocation.settings (i : Invocation) (fs : Files) : Except Failure Settings :=
  match Settings.load fs i.config with
  | .ok s => .ok (i.overrides.apply s)
  | .error fault => .error (fault.failure.within "Failed to load configuration")

end Backfill.CommandLine
