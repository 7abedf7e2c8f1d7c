import Backfill.Entity
import Backfill.Key

/-!
# Reports

A report counts what a run did: the rows read, the writes, how many nodes they matched, and the
rows that were skipped because their write kept failing.
-/

namespace Backfill.Sync

/-- A row whose write failed to the last attempt, with the failure on one line. -/
structure SkippedRow where
  key : Key
  error : String
deriving DecidableEq, Repr

/-- What a run has done so far. The counters have no upper bound. Where the nodes matched by all
writes together come to 2⁶⁴ or more, a counter of 64 bits would hold that number only modulo 2⁶⁴;
the other counters go up by one at a time. -/
structure Report where
  kind : Kind
  rowsRead : Nat := 0
  /-- The writes that were acknowledged. -/
  writes : Nat := 0
  /-- The nodes matched by all writes together. -/
  nodesUpdated : Nat := 0
  /-- The writes that matched no node. -/
  missing : Nat := 0
  /-- The writes that matched neither no node nor one. -/
  duplicates : Nat := 0
  skipped : List SkippedRow := []
deriving DecidableEq, Repr

namespace Report

/-- The report with one more row read. -/
def countRow (r : Report) : Report :=
  { r with rowsRead := r.rowsRead + 1 }

/-- The report with one more write, which matched so many nodes. Their sum does not wrap around. -/
def countWrite (r : Report) (matched : Int) : Report :=
  { r with
    writes := r.writes + 1
    nodesUpdated := r.nodesUpdated + matched.toNat
    missing := r.missing + if matched = 0 then 1 else 0
    duplicates := r.duplicates + if matched = 0 ∨ matched = 1 then 0 else 1 }

/-- The report with one more row skipped. -/
def skip (r : Report) (row : SkippedRow) : Report :=
  { r with skipped := r.skipped ++ [row] }

def hasFailures (r : Report) : Bool :=
  !r.skipped.isEmpty

end Report

end Backfill.Sync
