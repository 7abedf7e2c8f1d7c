import Backfill.Command
import Backfill.CommandLine.Reading
import Backfill.Event.Filter
import Backfill.Event.Line

/-!
# The program

The program from its arguments and environment to its streams and its exit code. Events are logged
to the error stream and, if asked for, to a file as well; what a command prints goes to the output
stream.
-/

namespace Backfill

/-- What the program is started with. -/
structure Surroundings where
  arguments : List String
  environment : CommandLine.Environment
  files : Files
  /-- The time at which each log line is written, as text. -/
  clock : Nat → String

/-- What the program leaves. -/
structure Aftermath (σ : Type) where
  exitCode : Nat
  stdout : String := ""
  stderr : String := ""
  files : Files
  requests : List Source.Request := []
  state : σ

namespace Failure

/-- The lines of a cause; further ones are indented below the first. -/
def causeText (lead indent text : String) : String :=
  lead ++ text.replace "\n" ("\n" ++ indent) ++ "\n"

/-- A failure with its causes, which are numbered if there are several. -/
def reportText (f : Failure) : String :=
  let causes := match f.causes with
    | [] => ""
    | [cause] => "\nCaused by:\n" ++ causeText "    " "    " cause
    | causes =>
      "\nCaused by:\n" ++ String.join (causes.zipIdx.map fun (cause, i) =>
        causeText (Text.alignRight 5 (Text.nat i) ++ ": ") "       " cause)
  "Error: " ++ f.text ++ "\n" ++ causes

end Failure

namespace Program

variable {σ : Type}

/-- Whether what a command prints is coloured, as it is never shown on a terminal: only if that is
forced. -/
def colour (env : CommandLine.Environment) : Bool :=
  (env.lookup "CLICOLOR_FORCE").any (· ≠ "0")

/-- Whether texts about the command line keep their styles: only if that is forced, by whatever
value, and not forbidden. -/
def styled (env : CommandLine.Environment) : Bool :=
  let isSet (name : String) : Bool := (env.lookup name).any (· ≠ "")
  isSet "CLICOLOR_FORCE" && !isSet "NO_COLOR"

/-- Which events are logged: as the environment says, if that can be read. -/
def filter (env : CommandLine.Environment) (verbose : Bool) : Filter :=
  ((env.lookup "RUST_LOG").bind Filter.parse?).getD
    (.upFrom (if verbose then .debug else .info))

/-- Opens the log file, in a directory that is made if it is missing. -/
def openLog (fs : Files) (path : String) : Except FileFault Files := do
  let fs ← fs.makeDirectories (Path.parent path)
  fs.openAppend path

/-- The log of some events. -/
def log (clock : Nat → String) (f : Filter) (events : List Event) : String :=
  Terminal.unlines ((events.filter f.admits).zipIdx.map fun (e, i) => e.line (clock i))

/-- The exit code and the last words of a command. -/
def ending : Except Interruption Unit → Nat × String
  | .ok () => (0, "")
  | .error (.failure f) => (1, f.reportText)
  | .error (.crash cause) => (101, cause.text ++ "\n")

/-- Carries out an invocation. -/
def execute (p : Surroundings) (i : CommandLine.Invocation) (server : Source.Server)
    (graph : GraphSettings → Graph.Store σ) (s : σ) : Aftermath σ :=
  match i.logFile.elim (.ok p.files) (openLog p.files) with
  | .error fault =>
    { exitCode := 1
      stderr := Failure.reportText { text := fault.text }
      files := p.files
      state := s }
  | .ok fs =>
    let done := Command.execute (colour p.environment) fs i server graph s
    let log := log p.clock (filter p.environment i.verbose) done.journal.events
    let (exitCode, last) := ending done.result
    { exitCode := exitCode
      stdout := Terminal.unlines done.journal.lines
      stderr := log ++ last
      files := i.logFile.elim fs (fs.append · log)
      requests := done.journal.requests
      state := done.state }

/-- A whole run of the program. A command line that is not carried out is answered on the output
stream, or refused on the error stream. -/
def run (p : Surroundings) (server : Source.Server) (graph : GraphSettings → Graph.Store σ)
    (s : σ) : Aftermath σ :=
  match CommandLine.read p.environment p.arguments with
  | .ok i => execute p i server graph s
  | .error stop =>
    let text :=
      if styled p.environment then stop.styledText p.environment else stop.text p.environment
    let text := if text.endsWith "\n" then text else text ++ "\n"
    if stop.isAnswer then
      { exitCode := stop.exitCode, stdout := text, files := p.files, state := s }
    else { exitCode := stop.exitCode, stderr := text, files := p.files, state := s }

end Program

end Backfill
