import Backfill.Failure
import Backfill.Text.Quoted
import Backfill.Text.Utf8

/-!
# What can go wrong at the source

Three layers of causes: a value that does not decode, an error of the database driver, and a fault
of reading the source, which says what was being done.
-/

namespace Backfill.Source

/-- The type of a result column. -/
inductive ColumnType where
  | text
  | varchar
  | bpchar
  | name
  | int4
  | int8
  | bool
  | date
  | bytea
  | timestamp
  | timestamptz
deriving DecidableEq, Repr

/-- The name of a column type in messages. -/
def ColumnType.shown : ColumnType → String
  | .text => "TEXT"
  | .varchar => "VARCHAR"
  | .bpchar => "CHAR"
  | .name => "NAME"
  | .int4 => "INT4"
  | .int8 => "INT8"
  | .bool => "BOOL"
  | .date => "DATE"
  | .bytea => "BYTEA"
  | .timestamp => "TIMESTAMP"
  | .timestamptz => "TIMESTAMPTZ"

/-- What a column is decoded as. -/
inductive Target where
  | string
  | instant
  | dateTime
  | count
deriving DecidableEq, Repr

namespace Target

/-- The column types from which a target can be decoded. -/
def accepts : Target → ColumnType → Bool
  | string, t => t = .text || t = .varchar || t = .bpchar || t = .name
  | instant, t => t = .timestamptz
  | dateTime, t => t = .timestamp
  | count, t => t = .int8

/-- The name of the target in messages, and the column type that it asks for. -/
def names : Target → String × String
  | string => ("alloc::string::String", "TEXT")
  | instant => ("chrono::datetime::DateTime<chrono::offset::utc::Utc>", "TIMESTAMPTZ")
  | dateTime => ("chrono::naive::datetime::NaiveDateTime", "TIMESTAMP")
  | count => ("i64", "INT8")

end Target

/-- Why a value does not decode. -/
inductive ValueFault where
  | null
  | mismatch (target : Target) (found : ColumnType)
  | encoding (fault : Text.Utf8Fault)
  /-- There are no bytes to hold a number. -/
  | emptyNumber
  /-- There are more bytes than a number can have. -/
  | longNumber (size : Nat)
deriving DecidableEq, Repr

def ValueFault.text : ValueFault → String
  | null => "unexpected null; try decoding as an `Option`"
  | mismatch target found =>
    let (type, column) := target.names
    "mismatched types; Rust type `" ++ type ++ "` (as SQL type `" ++ column ++
      "`) is not compatible with SQL type `" ++ found.shown ++ "`"
  | encoding fault => fault.text
  | emptyNumber => "Value Buffer found empty while decoding to integer type"
  | longNumber size =>
    "Value Buffer exceeds 8 bytes while decoding to integer type. Buffer size = " ++
      Text.nat size ++ " bytes "

/-- How a column is addressed. -/
inductive ColumnRef where
  | named (name : String)
  | position (index : Nat)
deriving DecidableEq, Repr

def ColumnRef.text : ColumnRef → String
  | named name => Text.quoted name
  | position index => Text.nat index

/-- An error of the database driver. -/
inductive DriverError where
  | protocol (message : String)
  | decode (message : String)
  | columnNotFound (name : String)
  /-- A column is asked for by a position that a row of the given length does not have. -/
  | columnOutOfBounds (index length : Nat)
  | rowNotFound
  | database (message : String)
  | connection (message : String)
  | columnDecode (column : ColumnRef) (fault : ValueFault)
deriving DecidableEq, Repr

/-- A message of the database, as the error that the driver makes of it. -/
instance : Coe String DriverError where
  coe := .database

def DriverError.failure : DriverError → Failure
  | protocol message => { text := "encountered unexpected or invalid data: " ++ message }
  | decode message => ⟨"error occurred while decoding: " ++ message, [message]⟩
  | columnNotFound name => { text := "no column found for name: " ++ name }
  | columnOutOfBounds index length =>
    { text := "column index out of bounds: the len is " ++ Text.nat length ++
        ", but the index is " ++ Text.nat index }
  | rowNotFound =>
    { text := "no rows returned by a query that expected to return at least one row" }
  | database message => ⟨"error returned from database: " ++ message, [message]⟩
  | connection message => ⟨"error communicating with database: " ++ message, [message]⟩
  | columnDecode column fault =>
    ⟨"error occurred while decoding column " ++ column.text ++ ": " ++ fault.text, [fault.text]⟩

def DriverError.text (e : DriverError) : String :=
  e.failure.text

/-- A fault of reading the source. -/
inductive Fault where
  | driver (error : DriverError)
  /-- A column does not decode. -/
  | decode (column : String) (error : DriverError)
  /-- A column decodes neither as an instant nor as a time without a zone. -/
  | timestamp (column : String) (aware naive : DriverError)
deriving DecidableEq, Repr

def Fault.failure : Fault → Failure
  | driver error => error.failure.within ("PostgreSQL error: " ++ error.text)
  | decode column error =>
    error.failure.within ("Failed to decode column '" ++ column ++ "': " ++ error.text)
  | timestamp column aware naive =>
    { text := "Failed to decode column '" ++ column ++ "' as timestamptz (" ++ aware.text ++
        ") or timestamp (" ++ naive.text ++ ")" }

end Backfill.Source
