import Backfill.Graph.Statement
import Backfill.Graph.Value

/-!
# The graph

A graph answers statements. It knows those of the program: the ping, the write and the count of
coverage of each kind. A script can have it answer otherwise: of the entries that apply to a
statement the first is used, as often as it may be. What is asked of the graph is kept in order.
-/

namespace Backfill.Graph

/-- What a graph answers to a statement. -/
inductive Reply where
  | fail (code message : String)
  | records (records : List Record)
  /-- The statement is accepted, and then its result cannot be fetched. -/
  | interrupted (message : String)
deriving DecidableEq, Repr

/-- An answer prescribed for some statements. -/
structure ScriptEntry where
  /-- What must occur in the statement's text. -/
  fragment : Option String := none
  /-- Values that the statement's parameters must have. -/
  params : List (String × Value) := []
  /-- How often the entry can be used yet; for ever if there is no number. -/
  left : Option Nat := none
  reply : Reply
deriving DecidableEq, Repr

/-- What is asked of a graph. -/
inductive Request where
  | hello (user password : String)
  | run (database : String) (statement : Statement)
deriving DecidableEq, Repr

structure Server where
  nodes : List Node := []
  script : List ScriptEntry := []
  /-- What has been asked so far. -/
  requests : List Request := []
deriving DecidableEq, Repr

/-- Whether a text occurs in another. -/
def occursIn (part : List Char) : List Char → Bool
  | [] => part.isEmpty
  | c :: cs => part.isPrefixOf (c :: cs) || occursIn part cs

namespace ScriptEntry

/-- Whether an entry is to answer a statement. -/
def applies (e : ScriptEntry) (s : Statement) : Bool :=
  e.left != some 0 && e.fragment.all (fun part => occursIn part.toList s.text.toList) &&
    e.params.all fun (name, value) => (s.param? name).map .text == some value

/-- The entry after it has been used. -/
def use (e : ScriptEntry) : ScriptEntry :=
  { e with left := e.left.map (· - 1) }

/-- The reply of the first entry that applies, and the script after that. -/
def answer? (s : Statement) : List ScriptEntry → Option (Reply × List ScriptEntry)
  | [] => none
  | e :: rest =>
    if e.applies s then some (e.reply, e.use :: rest)
    else (answer? s rest).map fun (reply, rest) => (reply, e :: rest)

end ScriptEntry

/-- The statement that only asks for an answer. -/
def Statement.ping : Statement :=
  { text := "RETURN 1" }

/-- How many nodes have the descriptor's label, and how many of them its property. -/
def coverageOf (d : Descriptor) (nodes : List Node) : Nat × Nat :=
  let labelled := nodes.filter (·.label = d.label)
  (labelled.length, labelled.countP fun n => (n.get? d.property).isSome)

namespace Server

/-- The nodes with the property set, by a write statement's parameters, and their number. -/
def writeStatement (d : Descriptor) (s : Statement) (nodes : List Node) : Nat × List Node :=
  let test := Node.isMatch d s.param?
  match s.param? d.property with
  | some stamp => setWhere d test stamp nodes
  | none => (nodes.countP test, nodes)

/-- The answer to a statement that no entry of the script is for. -/
def reply (server : Server) (s : Statement) : Reply × Server :=
  if s.text = Statement.ping.text then (.records [[("1", .whole 1)]], server)
  else
    match Kind.all.find? (·.descriptor.writeStatement = s.text) with
    | some kind =>
      let (matched, nodes) := writeStatement kind.descriptor s server.nodes
      (.records [[("matched", .whole matched)]], { server with nodes := nodes })
    | none =>
      match Kind.all.find? (·.descriptor.coverageQuery = s.text) with
      | some kind =>
        let (total, withProperty) := coverageOf kind.descriptor server.nodes
        (.records [[("total", .whole total), ("with_property", .whole withProperty)]], server)
      | none =>
        (.fail "Neo.ClientError.Statement.SyntaxError" "fake server: unknown query", server)

/-- Runs a statement on a database. -/
def run (database : String) (s : Statement) (server : Server) : Reply × Server :=
  let server := { server with requests := server.requests ++ [Request.run database s] }
  match ScriptEntry.answer? s server.script with
  | some (reply, script) => (reply, { server with script := script })
  | none => server.reply s

/-- Opens a connection. -/
def hello (user password : String) (server : Server) : Server :=
  { server with requests := server.requests ++ [Request.hello user password] }

end Server

end Backfill.Graph
