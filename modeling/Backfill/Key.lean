/-!
# Natural keys

A natural key names a row by the values of some fields, in order. Its text is what errors, log
lines and reports show.
-/

namespace Backfill

/-- Fields with their values, in order. A field may repeat; then the first one counts. -/
structure Key where
  fields : List (String × String)
deriving DecidableEq, Repr

namespace Key

/-- The key of a crate. -/
def ofCrate (name : String) : Key :=
  ⟨[("name", name)]⟩

/-- The key of a version of a crate. -/
def ofVersion (name version : String) : Key :=
  ⟨[("name", name), ("version", version)]⟩

/-- The value of the first field of the given name. -/
def get? (k : Key) (field : String) : Option String :=
  k.fields.lookup field

/-- Each field as `field=value`, divided by a comma and a blank. -/
def text (k : Key) : String :=
  ", ".intercalate (k.fields.map fun (field, value) => field ++ "=" ++ value)

end Key

end Backfill
