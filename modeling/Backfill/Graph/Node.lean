import Backfill.Entity
import Backfill.Row

/-!
# Nodes

A node has a label and properties. A row matches the nodes of its kind's label that agree with its
key on every key field, where a field that neither has counts as agreement. Writing a row sets one
property on all nodes that it matches and changes nothing else.
-/

namespace Backfill.Graph

structure Node where
  label : String
  props : List (String × String)
deriving DecidableEq, Repr

/-- A list of named values with one of them set: in its place if it is there, else at the end. -/
def assign (name value : String) : List (String × String) → List (String × String)
  | [] => [(name, value)]
  | (n, v) :: rest => if n = name then (n, value) :: rest else (n, v) :: assign name value rest

namespace Node

def get? (n : Node) (prop : String) : Option String :=
  n.props.lookup prop

def set (n : Node) (prop value : String) : Node :=
  { n with props := assign prop value n.props }

/-- Whether a node has the descriptor's label and the given values of its key fields. -/
def isMatch (d : Descriptor) (value : String → Option String) (n : Node) : Bool :=
  n.label == d.label && d.keyFields.all fun field => n.get? field == value field

/-- Whether a row matches a node. -/
def matchesRow (d : Descriptor) (row : Row) (n : Node) : Bool :=
  n.isMatch d row.key.get?

end Node

/-- The nodes with the descriptor's property set on those that satisfy the test, and their number. -/
def setWhere (d : Descriptor) (test : Node → Bool) (stamp : String) (nodes : List Node) :
    Nat × List Node :=
  (nodes.countP test, nodes.map fun n => if test n then n.set d.property stamp else n)

/-- The nodes after the write of a row, and the number of nodes that it matches. -/
def writeRow (d : Descriptor) (row : Row) (nodes : List Node) : Nat × List Node :=
  setWhere d (Node.matchesRow d row) row.stamp nodes

end Backfill.Graph
