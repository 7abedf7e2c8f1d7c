import Backfill.Decimal.Binary64

/-!
# TOML values

The values of a document, with the members of a table in order. A table remembers how it came
about, because that decides what may still be added to it.
-/

namespace Backfill.Toml

/-- How a table came about. -/
inductive Origin where
  /-- By a header of its own, or as the document itself. -/
  | header
  /-- As a parent in the header of another table. -/
  | parent
  /-- As a parent in a dotted key. -/
  | dotted
  /-- In braces, as a value. -/
  | inline
deriving DecidableEq, Repr

/-- Whether a table was only mentioned, so that it may still be defined. -/
def Origin.isImplicit : Origin → Bool
  | parent | dotted => true
  | header | inline => false

inductive Value where
  | string (value : String)
  | integer (value : Int)
  | float (value : Decimal.Binary64)
  | boolean (value : Bool)
  /-- A date, a time, or both, as written. -/
  | dateTime (text : String)
  | array (items : List Value)
  | table (origin : Origin) (entries : List (String × Value))
  /-- An array of tables, each from a header of its own. -/
  | tables (elements : List (List (String × Value)))
deriving Repr

/-- The members of a table, in order. -/
abbrev Entries := List (String × Value)

namespace Entries

/-- The members with one replaced, in its place. -/
def replace (key : String) (v : Value) (es : Entries) : Entries :=
  es.map fun e => if e.1 = key then (key, v) else e

/-- The members without one. -/
def remove (key : String) (es : Entries) : Entries :=
  es.filter (·.1 ≠ key)

/-- The members with a new one at the end, which must not be there yet. -/
def add? (key : String) (v : Value) (es : Entries) : Option Entries :=
  if (es.lookup key).isSome then none else some (es ++ [(key, v)])

/-- Changes the table at the end of a path. Tables that are missing on the way are added with the
given origin; of an array of tables, the last element is meant. A dotted key does not lead into a
table that is already defined. -/
def descend? (missing : Origin) (f : Origin → Entries → Option Entries) :
    List String → Origin → Entries → Option Entries
  | [], origin, es => f origin es
  | key :: path, _, es =>
    match es.lookup key with
    | none => do
      let inner ← descend? missing f path missing []
      return es ++ [(key, .table missing inner)]
    | some (.table origin inner) =>
      if origin = .inline ∨ missing = .dotted ∧ !origin.isImplicit then none
      else do
        let inner ← descend? missing f path origin inner
        return es.replace key (.table origin inner)
    | some (.tables elements) =>
      match elements.reverse with
      | [] => none
      | last :: before => do
        let last ← descend? missing f path .header last
        return es.replace key (.tables (last :: before).reverse)
    | some _ => none

/-- Adds a value under a dotted key. The table that it goes into must come from dotted keys too,
unless the key is not dotted. -/
def insert? (path : List String) (key : String) (v : Value) (es : Entries) : Option Entries :=
  descend? .dotted (fun origin inner =>
    if !path.isEmpty && origin ≠ .dotted then none else inner.add? key v) path .header es

/-- Opens a table by its header. A table that was only mentioned as a parent keeps its members and
moves to the place of the header. -/
def openTable? (path : List String) (key : String) (es : Entries) : Option Entries :=
  descend? .parent (fun _ inner =>
    match inner.lookup key with
    | none => some (inner ++ [(key, .table .header [])])
    | some (.table .parent members) => some (inner.remove key ++ [(key, .table .header members)])
    | some _ => none) path .header es

/-- Opens a further element of an array of tables by its header. -/
def openElement? (path : List String) (key : String) (es : Entries) : Option Entries :=
  descend? .parent (fun _ inner =>
    match inner.lookup key with
    | none => some (inner ++ [(key, .tables [[]])])
    | some (.tables elements) => some (inner.replace key (.tables (elements ++ [[]])))
    | some _ => none) path .header es

end Entries

end Backfill.Toml
