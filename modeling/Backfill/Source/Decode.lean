import Backfill.Entity
import Backfill.Row
import Backfill.Source.Fault

/-!
# Decoding result rows

A result row gives a value for each column of the result. The key fields are decoded in their
order, then the creation date: as an instant, or else as a time without a zone, which is read as
UTC. Times are counted in microseconds from 2000-01-01T00:00:00Z; one that lies outside of the
calendar has no instant.
-/

namespace Backfill.Source

open Calendar

inductive Datum where
  | null
  | text (value : String)
  | bytes (value : List UInt8)
  | integer (value : Int)
  | boolean (value : Bool)
deriving DecidableEq, Repr

structure Column where
  name : String
  type : ColumnType
deriving DecidableEq, Repr

/-- The columns of a row with their values, in order. -/
abbrev ResultRow := List (Column × Datum)

namespace ResultRow

/-- The value of the column of the given name; of several, the last one counts. -/
def find? (row : ResultRow) (name : String) : Option (Column × Datum) :=
  row.reverse.find? fun (column, _) => column.name = name

end ResultRow

/-- The signed integer that bytes hold, most significant first. -/
def ofBigEndian (bytes : List UInt8) : Int :=
  let n : Nat := bytes.foldl (fun n b => 256 * n + b.toNat) 0
  Int.bmod n (1 <<< (8 * bytes.length))

/-- The number that one to eight bytes hold. -/
def wholeOfBytes (bytes : List UInt8) : Except ValueFault Int :=
  if bytes.isEmpty then .error .emptyNumber
  else if bytes.length > 8 then .error (.longNumber bytes.length)
  else .ok (ofBigEndian bytes)

namespace Datum

def string : Datum → Except ValueFault String
  | null => .error .null
  | text value => .ok value
  | bytes value => (Text.decodeUtf8 value).mapError .encoding
  | integer value => .ok (Text.int value)
  | boolean value => .ok (if value then "t" else "f")

def whole : Datum → Except ValueFault Int
  | null => .error .null
  | text value => wholeOfBytes value.toUTF8.toList
  | bytes value => wholeOfBytes value
  | integer value => .ok value
  | boolean value => .ok (if value then 1 else 0)

end Datum

/-- Seconds of 2000-01-01T00:00:00Z. -/
def epoch : Int := 946684800

/-- The instant that lies the given number of microseconds after 2000-01-01T00:00:00Z. -/
def instantAt? (micros : Int) : Option Instant :=
  Instant.ofParts? (epoch + micros / 1000000) (1000 * (micros % 1000000).toNat)

/-- A value decoded for a target: a null never decodes, and then the type of the column counts. -/
def decodeAs (target : Target) (read : Datum → Except ValueFault α) (ref : ColumnRef)
    (cell : Column × Datum) : Except DriverError α :=
  let (column, datum) := cell
  let result :=
    if datum = .null then .error .null
    else if target.accepts column.type then read datum
    else .error (.mismatch target column.type)
  result.mapError (.columnDecode ref)

/-- A named column decoded for a target. -/
def decodeColumn (target : Target) (read : Datum → Except ValueFault α) (row : ResultRow)
    (name : String) : Except DriverError α :=
  match row.find? name with
  | none => .error (.columnNotFound name)
  | some cell => decodeAs target read (.named name) cell

def decodeString (row : ResultRow) (name : String) : Except DriverError String :=
  decodeColumn .string Datum.string row name

/-- The microseconds of a column with a time zone. -/
def decodeInstant (row : ResultRow) (name : String) : Except DriverError Int :=
  decodeColumn .instant Datum.whole row name

/-- The microseconds of a column without a time zone. -/
def decodeDateTime (row : ResultRow) (name : String) : Except DriverError Int :=
  decodeColumn .dateTime Datum.whole row name

/-- The key fields with their values, or the first field that does not decode. -/
def decodeFields (row : ResultRow) : List String → Except Fault (List (String × String))
  | [] => .ok []
  | field :: fields =>
    match decodeString row field with
    | .error e => .error (.decode field e)
    | .ok value => ((field, value) :: ·) <$> decodeFields row fields

/-- The microseconds of the creation date, with or without a time zone. -/
def decodeTime (row : ResultRow) (column : String) : Except Fault Int :=
  match decodeInstant row column with
  | .ok micros => .ok micros
  | .error aware =>
    match decodeDateTime row column with
    | .ok micros => .ok micros
    | .error naive => .error (.timestamp column aware naive)

/-- The row that a result row holds, or `none` if its date lies outside of the calendar. -/
def decodeRow (d : Descriptor) (row : ResultRow) : Except Fault (Option Row) := do
  let fields ← decodeFields row d.keyFields
  let micros ← decodeTime row d.property
  return (instantAt? micros).map (⟨⟨fields⟩, ·⟩)

end Backfill.Source
