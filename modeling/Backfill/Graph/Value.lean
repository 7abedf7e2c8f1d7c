import Backfill.Decimal.Shortest
import Backfill.Text.Quoted

/-!
# Values

The values in the records that a graph answers with. The program reads whole numbers only, so of a
list or a map no more than its sort is kept.
-/

namespace Backfill.Graph

inductive Value where
  | null
  | flag (value : Bool)
  | whole (value : Int)
  | real (value : Decimal.Binary64)
  | text (value : String)
  | list
  | map
deriving DecidableEq, Repr

/-- A value that is not the one asked for, as messages show it. -/
def Value.shown : Value → String
  | null => "Unit"
  | flag value => if value then "Bool(true)" else "Bool(false)"
  | whole value => "Int(" ++ Text.int value ++ ")"
  | real value => "Float(" ++ value.text .compact ++ ")"
  | text value => "Str(" ++ Text.quoted value ++ ")"
  | list => "Seq"
  | map => "Map"

/-- A record: values by the name of their field. -/
abbrev Record := List (String × Value)

/-- Why a whole number cannot be had from a record. -/
inductive FieldFault where
  | missing
  | wrongType (received : Value)
deriving DecidableEq, Repr

def FieldFault.text : FieldFault → String
  | missing => "NoSuchProperty"
  | wrongType received =>
    "InvalidType \x7b received: " ++ received.shown ++ ", expected: \"i64\" \x7d"

/-- The whole number in a field. Of two fields with one name the later counts. -/
def Record.whole (r : Record) (field : String) : Except FieldFault Int :=
  match r.reverse.lookup field with
  | none => .error .missing
  | some (.whole n) => .ok n
  | some v => .error (.wrongType v)

end Backfill.Graph
