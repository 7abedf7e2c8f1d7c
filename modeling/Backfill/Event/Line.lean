import Backfill.Event

/-!
# Log lines

An event is logged on a line of its own, after the time and its level.
-/

namespace Backfill

def FieldValue.text : FieldValue → String
  | shown text => text
  | string text => Text.quoted text
  | number value => Text.int value
  | flag value => if value then "true" else "false"

/-- The line of an event that is logged at the given time. -/
def Event.line (time : String) (e : Event) : String :=
  let fields := e.fields.map fun (name, value) => " " ++ name ++ "=" ++ value.text
  time ++ " " ++ Text.alignRight 5 e.level.name ++ " " ++ e.target ++ ": " ++ e.message ++
    String.join fields

end Backfill
