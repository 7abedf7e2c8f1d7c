import Backfill.Decimal.Shortest
import Backfill.Settings
import Backfill.Text.Quoted
import Backfill.Toml.Document

/-!
# Settings in TOML

A record of settings is read from a table by the names of its members, in the order in which the
table has them, or from an array by their position. Members that are missing keep their default,
and members that the record does not know are passed over. The first value that does not fit is the
fault.
-/

namespace Backfill.Settings

open Toml

/-- What is expected in some place of a document. -/
inductive Expected where
  | string
  | word16
  | word32
  | word64
  | record (name : String)
deriving DecidableEq, Repr

def Expected.text : Expected → String
  | string => "a string"
  | word16 => "u16"
  | word32 => "u32"
  | word64 => "u64"
  | record name => "struct " ++ name

/-- Why a value does not fit. -/
inductive SchemaFault where
  | wrongType (found : Value) (expected : Expected)
  | outOfRange (found : Int) (expected : Expected)
  /-- The failure mode has a name that is none. -/
  | unknownMode (name : String)
  /-- The failure mode is neither a string nor a table. -/
  | modeType
  /-- A table in place of the failure mode has no member. -/
  | modeMissing
  /-- A table in place of the failure mode has several members. -/
  | modeAmbiguous
  /-- The member that names the failure mode is not a table. -/
  | modeContentType (found : Value)
  /-- The member that names the failure mode is a table or an array with something in it. -/
  | modeContent
  /-- The member that names the failure mode is an array of tables. -/
  | modeElements
deriving Repr

/-- A value as the message about its type shows it. -/
def found : Value → String
  | .string s => "string " ++ Text.quoted s
  | .integer n => "integer `" ++ Text.int n ++ "`"
  | .float x => "floating point `" ++ x.text .full ++ "`"
  | .boolean b => "boolean `" ++ (if b then "true" else "false") ++ "`"
  | .array _ | .tables _ => "sequence"
  | .table .. | .dateTime _ => "map"

/-- The name of a value's type. -/
def typeName : Value → String
  | .string _ => "string"
  | .integer _ => "integer"
  | .float _ => "float"
  | .boolean _ => "boolean"
  | .dateTime _ => "datetime"
  | .array _ => "array"
  | .tables _ => "array of tables"
  | .table .inline _ => "inline table"
  | .table .. => "table"

def SchemaFault.text : SchemaFault → String
  | wrongType v expected => "invalid type: " ++ found v ++ ", expected " ++ expected.text
  | outOfRange n expected =>
    "invalid value: integer `" ++ Text.int n ++ "`, expected " ++ expected.text
  | unknownMode name => "unknown variant `" ++ name ++ "`, expected `abort` or `skip`"
  | modeType => "wanted string or table"
  | modeMissing => "wanted exactly 1 element, found 0 elements"
  | modeAmbiguous => "wanted exactly 1 element, more than 1 element"
  | modeContentType v => "expected table, found " ++ typeName v
  | modeContent => "expected empty table"
  | modeElements => "expected empty array"

/-! ### Single values -/

def readString : Value → Except SchemaFault String
  | .string s => .ok s
  | v => .error (.wrongType v .string)

/-- An integer below a bound. -/
def readWord (expected : Expected) (bound : Nat) : Value → Except SchemaFault Nat
  | .integer n => if 0 ≤ n ∧ n < bound then .ok n.toNat else .error (.outOfRange n expected)
  | v => .error (.wrongType v expected)

def readWord16 (v : Value) : Except SchemaFault UInt16 :=
  Nat.toUInt16 <$> readWord .word16 UInt16.size v

def readWord32 (v : Value) : Except SchemaFault UInt32 :=
  Nat.toUInt32 <$> readWord .word32 UInt32.size v

def readWord64 (v : Value) : Except SchemaFault UInt64 :=
  Nat.toUInt64 <$> readWord .word64 UInt64.size v

def modeOfName (name : String) : Except SchemaFault Sync.FailureMode :=
  if name = "abort" then .ok .abort
  else if name = "skip" then .ok .skip
  else .error (.unknownMode name)

/-- What stands beside the name of a failure mode in a table must be empty. -/
def checkContent : Value → Except SchemaFault Unit
  | .table _ es => if es.isEmpty then .ok () else .error .modeContent
  | .array vs => if vs.isEmpty then .ok () else .error .modeContent
  | .tables elements => if elements.isEmpty then .ok () else .error .modeElements
  | v => .error (.modeContentType v)

/-- A failure mode: its name, or a table with the name as its only member. -/
def readMode : Value → Except SchemaFault Sync.FailureMode
  | .string name => modeOfName name
  | .table _ [] => .error .modeMissing
  | .table _ [(name, content)] => do
    let mode ← modeOfName name
    checkContent content
    return mode
  | .table .. => .error .modeAmbiguous
  | _ => .error .modeType

/-! ### Records -/

/-- The members of a record in order, each with how its value changes the record. -/
structure Schema (α : Type) where
  name : String
  members : List (String × (Value → α → Except SchemaFault α))

namespace Schema

/-- Reads the members of a table in the order of the table. -/
def readEntries (s : Schema α) (init : α) (es : Entries) : Except SchemaFault α :=
  es.foldlM (fun a (key, v) =>
    match s.members.lookup key with
    | some read => read v a
    | none => .ok a) init

/-- Reads the members by their position. -/
def readItems (s : Schema α) (init : α) (vs : List Value) : Except SchemaFault α :=
  (s.members.zip vs).foldlM (fun a ((_, read), v) => read v a) init

/-- Reads a record. A date or time counts as a table without any known member. -/
def read (s : Schema α) (init : α) : Value → Except SchemaFault α
  | .table _ es => s.readEntries init es
  | .array vs => s.readItems init vs
  | .tables elements => s.readItems init (elements.map (.table .header))
  | .dateTime _ => .ok init
  | v => .error (.wrongType v (.record s.name))

/-- A member of which the value is read by itself and then put in its place. -/
def member (name : String) (read : Value → Except SchemaFault β) (set : α → β → α) :
    String × (Value → α → Except SchemaFault α) :=
  (name, fun v a => set a <$> read v)

end Schema

open Schema (member)

def sourceSchema : Schema SourceSettings where
  name := "PostgresConfig"
  members :=
    [member "host" readString fun s v => { s with host := v },
      member "port" readWord16 fun s v => { s with port := v },
      member "database" readString fun s v => { s with database := v },
      member "user" readString fun s v => { s with user := v },
      member "password" readString fun s v => { s with password := v }]

def graphSchema : Schema GraphSettings where
  name := "GraphConfig"
  members :=
    [member "uri" readString fun s v => { s with uri := v },
      member "user" readString fun s v => { s with user := v },
      member "password" readString fun s v => { s with password := v },
      member "database" readString fun s v => { s with database := v }]

def retrySchema : Schema RetryPolicy where
  name := "RetryPolicy"
  members :=
    [member "max_attempts" readWord32 fun s v => { s with maxAttempts := v },
      member "initial_backoff_ms" readWord64 fun s v => { s with initialBackoff := v },
      member "max_backoff_ms" readWord64 fun s v => { s with maxBackoff := v }]

def syncSchema : Schema SyncSettings where
  name := "SyncSettings"
  members :=
    [member "retry" (retrySchema.read {}) fun s v => { s with retry := v },
      member "failure_mode" readMode fun s v => { s with failureMode := v }]

def schema : Schema Settings where
  name := "CrategraphConfig"
  members :=
    [member "postgres" (sourceSchema.read {}) fun s v => { s with source := v },
      member "graph" (graphSchema.read {}) fun s v => { s with graph := v },
      member "sync" (syncSchema.read {}) fun s v => { s with sync := v }]

/-- The settings of a document. -/
def ofEntries (es : Entries) : Except SchemaFault Settings :=
  schema.readEntries {} es

/-- Why a text holds no settings. -/
inductive TextFault where
  /-- The text is not TOML. -/
  | syntaxFault
  | schema (fault : SchemaFault)
deriving Repr

/-- The settings of a text. -/
def ofText (text : String) : Except TextFault Settings :=
  match parse? text with
  | none => .error .syntaxFault
  | some es => (ofEntries es).mapError .schema

end Backfill.Settings
