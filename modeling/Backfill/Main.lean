import Backfill.Program
import Std.Time.DateTime.Timestamp

/-!
# The command line tool

Collects what the program is started with, runs it, and gives its streams, its log file and its exit
code to the system. The tool has no connection to any store: the source counts as down.
-/

namespace Backfill.Main

/-- The environment variables that matter. -/
def variableNames : List String :=
  ["RUST_LOG", "CLICOLOR_FORCE", "NO_COLOR"] ++
    (CommandLine.Scope.options .root).filterMap CommandLine.Opt.envName?

def readEnvironment : IO CommandLine.Environment := do
  let mut env := []
  for name in variableNames do
    if let some value ← IO.getEnv name then
      env := env ++ [(name, value)]
  return env

/-- The files that an invocation may read or write, as far as they are there. -/
def readFiles (i : CommandLine.Invocation) : IO Files := do
  let mut entries := []
  for path in i.config.toList ++ i.logFile.toList do
    try
      entries := entries ++ [(path, FileEntry.file (← IO.FS.readBinFile path).toList)]
    catch _ => pure ()
  return .ofList entries

/-- Writes the log file, if there is one. -/
def writeLog (i : CommandLine.Invocation) (files : Files) : IO Unit := do
  if let some path := i.logFile then
    if let .ok bytes := files.read path then
      let parent := Path.parent path
      unless parent.isEmpty do
        IO.FS.createDirAll parent
      IO.FS.writeBinFile path ⟨bytes.toArray⟩

/-- The current time as log lines show it. -/
def now : IO String := do
  let time ← Std.Time.Timestamp.now
  let nanos := time.toNanosecondsSinceUnixEpoch.toInt
  match Calendar.Instant.ofParts? (nanos / 1000000000) (nanos % 1000000000).toNat with
  | some i => return i.stamp
  | none => return ""

end Backfill.Main

open Backfill in
def main (arguments : List String) : IO UInt32 := do
  let environment ← Backfill.Main.readEnvironment
  let invocation := CommandLine.read environment arguments
  let files ← match invocation with
    | .ok i => Backfill.Main.readFiles i
    | .error _ => pure {}
  let time ← Backfill.Main.now
  let graph : Graph.Server := {}
  let after := Program.run
    { arguments := arguments, environment := environment, files := files, clock := fun _ => time }
    .down Graph.Server.store graph
  if let .ok i := invocation then
    Backfill.Main.writeLog i after.files
  (← IO.getStdout).putStr after.stdout
  (← IO.getStderr).putStr after.stderr
  return after.exitCode.toUInt32
