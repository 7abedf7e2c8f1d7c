import Backfill.Source.Server
import Backfill.Sync.Attempt

/-!
# Runs

A run takes the rows of a kind in order, each with one write. A fault of reading stops it. A write
that fails to the last attempt stops it too, unless such rows are to be skipped. A dry run only
reads. Whatever the end, a run leaves a trace of the attempts, of the writes that were acknowledged
and of the events.
-/

namespace Backfill.Sync

open Source (Item)

/-- What becomes of a row whose write fails to the last attempt. -/
inductive FailureMode where
  | abort
  | skip
deriving DecidableEq, Repr

structure Options where
  retry : RetryPolicy := {}
  failureMode : FailureMode := .abort
  /-- Read and decode all rows without writing. -/
  dryRun : Bool := false
deriving DecidableEq, Repr

/-- Why a run stops before the end of its rows. -/
inductive RunError where
  /-- The row at the given position, counted from 1, cannot be read. -/
  | read (kind : Kind) (position : Nat) (fault : Source.Fault)
  /-- All attempts at the write of a row failed. -/
  | write (kind : Kind) (key : Key) (last : Failure)
deriving DecidableEq, Repr

/-- The failure of a write, seen from the row. -/
def writeFailure (d : Descriptor) (key : Key) (last : Failure) : Failure :=
  last.within
    ("Failed to set " ++ d.property ++ " on " ++ d.label ++ " \x7b" ++ key.text ++ "\x7d")

def RunError.failure : RunError → Failure
  | read kind position fault =>
    fault.failure.within
      ("Failed to read " ++ kind.name ++ " row " ++ Text.nat position ++ " from PostgreSQL")
  | write kind key last => writeFailure kind.descriptor key last

/-- What a run leaves behind, in order. -/
structure Trace where
  calls : List Call := []
  /-- The rows whose write was acknowledged, with the number of nodes matched. -/
  written : List (Row × Int) := []
  events : List Event := []

instance : Append Trace where
  append a b := ⟨a.calls ++ b.calls, a.written ++ b.written, a.events ++ b.events⟩

namespace Trace

@[simp] theorem calls_append (a b : Trace) : (a ++ b).calls = a.calls ++ b.calls := rfl

@[simp] theorem written_append (a b : Trace) : (a ++ b).written = a.written ++ b.written := rfl

@[simp] theorem events_append (a b : Trace) : (a ++ b).events = a.events ++ b.events := rfl

theorem append_assoc (a b c : Trace) : a ++ b ++ c = a ++ (b ++ c) := by
  show Trace.mk _ _ _ = Trace.mk _ _ _
  simp [List.append_assoc]

end Trace

/-- Where a run stands between two rows. -/
structure Standing (σ : Type) where
  state : σ
  time : Nat
  report : Report

/-- Part of a run: why it stopped, if it did, where it stands and its trace. -/
structure Leg (σ : Type) where
  stop : Option RunError := none
  standing : Standing σ
  trace : Trace := {}

/-- The event of an acknowledged write. -/
def matchEvent (d : Descriptor) (key : Key) (matched : Int) : Event :=
  if matched = 0 then .noMatch d.label key
  else if matched = 1 then .oneMatch d.label key
  else .manyMatches d.label key matched

/-- The part of a run that deals with one row. -/
def rowLeg (w : Writer σ) (o : Options) (kind : Kind) (st : Standing σ) (row : Row) : Leg σ :=
  let report := st.report.countRow
  if o.dryRun then
    { standing := { st with report := report }
      trace := { events := [.writeOmitted row] } }
  else
    let d := kind.descriptor
    let a := write w d row o.retry st.time st.state
    match a.result with
    | .ok matched =>
      { standing := ⟨a.state, a.time, report.countWrite matched⟩
        trace := ⟨a.calls, [(row, matched)], a.events ++ [matchEvent d row.key matched]⟩ }
    | .error last =>
      match o.failureMode with
      | .abort =>
        { stop := some (.write kind row.key last)
          standing := ⟨a.state, a.time, report⟩
          trace := ⟨a.calls, [], a.events⟩ }
      | .skip =>
        let skipped : SkippedRow := ⟨row.key, (writeFailure d row.key last).inline⟩
        { standing := ⟨a.state, a.time, report.skip skipped⟩
          trace := ⟨a.calls, [], a.events ++ [.rowSkipped skipped]⟩ }

/-- The part of a run that deals with one item of the source. -/
def step (w : Writer σ) (o : Options) (kind : Kind) (st : Standing σ) : Item → Leg σ
  | .error fault =>
    { stop := some (.read kind (st.report.rowsRead + 1) fault), standing := st }
  | .ok row => rowLeg w o kind st row

/-- The part of a run that deals with some items, up to the first that stops it. -/
def steps (w : Writer σ) (o : Options) (kind : Kind) (st : Standing σ) : List Item → Leg σ
  | [] => { standing := st }
  | item :: items =>
    let leg := step w o kind st item
    match leg.stop with
    | some _ => leg
    | none =>
      let later := steps w o kind leg.standing items
      { later with trace := leg.trace ++ later.trace }

@[simp] theorem steps_nil (w : Writer σ) (o : Options) (kind : Kind) (st : Standing σ) :
    steps w o kind st [] = { standing := st } := rfl

theorem steps_cons_of_stop {w : Writer σ} {o : Options} {kind : Kind} {st : Standing σ} {item : Item}
    {e : RunError} (items : List Item) (h : (step w o kind st item).stop = some e) :
    steps w o kind st (item :: items) = step w o kind st item := by
  simp only [steps, h]

theorem steps_cons_of_none {w : Writer σ} {o : Options} {kind : Kind} {st : Standing σ} {item : Item}
    (items : List Item) (h : (step w o kind st item).stop = none) :
    steps w o kind st (item :: items) =
      let later := steps w o kind (step w o kind st item).standing items
      { later with trace := (step w o kind st item).trace ++ later.trace } := by
  simp only [steps, h]

/-- Where a run of a kind begins. -/
def Standing.start (kind : Kind) (s : σ) : Standing σ :=
  ⟨s, 0, { kind := kind }⟩

/-- A whole run. -/
structure Outcome (σ : Type) where
  result : Except RunError Report
  state : σ
  trace : Trace

/-- The run of a kind over the items of the source. -/
def run (w : Writer σ) (o : Options) (kind : Kind) (s : σ) (items : List Item) : Outcome σ :=
  let leg := steps w o kind (.start kind s) items
  let started : Trace := { events := [.runStarted kind o.dryRun] }
  match leg.stop with
  | some e => ⟨.error e, leg.standing.state, started ++ leg.trace⟩
  | none =>
    let report := leg.standing.report
    ⟨.ok report, leg.standing.state, started ++ leg.trace ++ { events := [.runCompleted report] }⟩

end Backfill.Sync
