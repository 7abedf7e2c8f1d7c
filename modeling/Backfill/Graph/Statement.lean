import Backfill.Graph.Node
import Backfill.Text.Alphanumeric

/-!
# Statements

A statement is a text with named parameters. A parameter that is bound again takes the later value.
-/

namespace Backfill.Graph

structure Statement where
  text : String
  params : List (String × String) := []
deriving DecidableEq, Repr

namespace Statement

/-- The statement with a parameter bound. -/
def bind (s : Statement) (name value : String) : Statement :=
  { s with params := assign name value s.params }

/-- The value that a parameter is bound to. -/
def param? (s : Statement) (name : String) : Option String :=
  s.params.lookup name

def binds (s : Statement) (name : String) : Bool :=
  (s.param? name).isSome

/-- A character of a name: a letter or digit of any script, or an underscore. -/
def isNameCharacter (c : Char) : Bool :=
  Text.isAlphanumeric c || c = '_'

/-- The names of the parameters that a text mentions: what stands after each dollar sign. -/
def mentioned : List Char → List String
  | [] => []
  | c :: cs =>
    if c = '$' then String.ofList (cs.takeWhile isNameCharacter) :: mentioned cs else mentioned cs

/-- The statement that writes a row: the key fields and the property are its parameters. -/
def ofRow (d : Descriptor) (row : Row) : Statement :=
  let keyed := row.key.fields.foldl (fun s (field, value) => s.bind field value)
    { text := d.writeStatement : Statement }
  keyed.bind d.property row.stamp

/-- The statement that counts the nodes of a kind. -/
def coverage (d : Descriptor) : Statement :=
  { text := d.coverageQuery }

end Statement

end Backfill.Graph
