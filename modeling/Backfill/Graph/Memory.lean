import Backfill.Graph.Node
import Backfill.Sync.Attempt

/-!
# A graph in memory

A graph that holds its nodes in memory and takes writes row by row. Attempts can be made to fail,
by the text of the row's key, a number of times or for ever; a failing attempt leaves the nodes as
they are. The number of matches that an attempt reports can be prescribed as well.
-/

namespace Backfill.Graph

/-- Failures to come. -/
structure Disturbance where
  /-- How often the failure will occur yet; for ever if there is no number. -/
  left : Option Nat
  failure : Failure
deriving DecidableEq, Repr

structure Memory where
  nodes : List Node
  /-- Failures to come, by the text of the key. -/
  disturbances : List (String × Disturbance) := []
  /-- Numbers of matches to report, by the text of the key. -/
  counts : List (String × Int) := []
deriving DecidableEq, Repr

namespace Memory

/-- The graph with failures to come for a key. -/
def disturb (m : Memory) (key : String) (d : Disturbance) : Memory :=
  { m with disturbances := (key, d) :: m.disturbances.filter (·.1 != key) }

/-- The failure of the next attempt for a key, and the graph in which it is used up. -/
def fail? (m : Memory) (key : String) : Option (Failure × Memory) :=
  match m.disturbances.lookup key with
  | none => none
  | some ⟨none, failure⟩ => some (failure, m)
  | some ⟨some 0, _⟩ => none
  | some ⟨some (left + 1), failure⟩ => some (failure, m.disturb key ⟨some left, failure⟩)

/-- One attempt at the write of a row. -/
def writer : Sync.Writer Memory := fun d row m =>
  match m.fail? row.key.text with
  | some (failure, m) => (.error failure, m)
  | none =>
    match m.counts.lookup row.key.text with
    | some matched => (.ok matched, m)
    | none =>
      let (matched, nodes) := writeRow d row m.nodes
      (.ok matched, { m with nodes := nodes })

end Memory

end Backfill.Graph
