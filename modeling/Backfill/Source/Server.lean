import Backfill.Source.Decode

/-!
# The relational source

The source answers four queries, one that reads and one that counts for each kind. What is asked of
it is kept in order.
-/

namespace Backfill.Source

/-- Where a result is cut off by an error. -/
inductive ErrorPlace where
  /-- The query is refused. -/
  | parse
  /-- After so many rows. -/
  | after (rows : Nat)
deriving DecidableEq, Repr

/-- The result of a query. It can be cut off by any error of the driver: one that the database
reports, or one of its own, such as a connection that is lost. -/
structure QueryResult where
  columns : List Column
  rows : List (List Datum)
  error : Option (ErrorPlace × DriverError) := none

/-- What is known of a result; the rest is as for a source in order. -/
structure Answer where
  columns : Option (List Column) := none
  rows : Option (List (List Datum)) := none
  error : Option (ErrorPlace × DriverError) := none

/-- What a source holds for each query. -/
structure Content where
  read : Kind → Answer := fun _ => {}
  count : Kind → Answer := fun _ => {}
  /-- The message with which a connection is refused after the password. -/
  refusal : Option String := none

/-- A source that can be reached, or not. -/
inductive Server where
  | down
  | up (content : Content)

/-- What is asked of a source. -/
inductive Request where
  | connect (user database password : String)
  | query (text : String)
  | terminate
deriving DecidableEq, Repr

/-- The values of a row by column. Where a value is lacking, the column is null. -/
def pair : List Column → List Datum → ResultRow
  | [], _ => []
  | column :: columns, [] => (column, .null) :: pair columns []
  | column :: columns, datum :: row => (column, datum) :: pair columns row

/-- The rows of a result, with the error in place of what it cuts off. -/
def QueryResult.stream (r : QueryResult) : List (Except DriverError ResultRow) :=
  let rows := r.rows.map fun row => Except.ok (pair r.columns row)
  match r.error with
  | none => rows
  | some (.parse, e) => [.error e]
  | some (.after n, e) => rows.take n ++ [.error e]

/-- The error that the rows of a stream lead up to. -/
def streamError? : List (Except DriverError ResultRow) → Option DriverError
  | [] => none
  | .error e :: _ => some e
  | .ok _ :: rest => streamError? rest

/-- One read from the source: a row, or the fault of reading it. -/
abbrev Item := Except Fault Row

/-- The rows of a kind as they come in. A feed breaks off at a date outside of the calendar. -/
structure Feed where
  items : List Item
  broken : Bool

namespace Feed

/-- A feed with one more item in front. -/
def cons (feed : Feed) (item : Item) : Feed :=
  { feed with items := item :: feed.items }

/-- The feed of a result. -/
def ofStream (d : Descriptor) : List (Except DriverError ResultRow) → Feed
  | [] => ⟨[], false⟩
  | .error e :: rest => (ofStream d rest).cons (.error (.driver e))
  | .ok row :: rest =>
    match decodeRow d row with
    | .ok none => ⟨[], true⟩
    | .ok (some r) => (ofStream d rest).cons (.ok r)
    | .error fault => (ofStream d rest).cons (.error fault)

/-- The feed up to its first item. -/
def first (feed : Feed) : Feed :=
  match feed.items with
  | [] => feed
  | item :: _ => ⟨[item], false⟩

end Feed

namespace Content

/-- The result of a kind's read query: the key fields as text and the creation date with a time
zone, and no rows, unless the source says otherwise. -/
def readResult (c : Content) (k : Kind) : QueryResult :=
  let d := k.descriptor
  let answer := c.read k
  { columns := answer.columns.getD
      (d.keyFields.map (⟨·, .text⟩) ++ [⟨d.property, .timestamptz⟩])
    rows := answer.rows.getD []
    error := answer.error }

/-- The result of a kind's count query: the number of rows to read, unless the source says
otherwise. -/
def countResult (c : Content) (k : Kind) : QueryResult :=
  let answer := c.count k
  { columns := answer.columns.getD [⟨"count", .int8⟩]
    rows := answer.rows.getD [[.integer (c.readResult k).rows.length]]
    error := answer.error }

/-- The rows of a kind. -/
def feed (c : Content) (k : Kind) : Feed :=
  .ofStream k.descriptor (c.readResult k).stream

/-- What is left of the rows of a kind after the first: only an error in it matters. -/
def rest? (c : Content) (k : Kind) : Option DriverError :=
  streamError? ((c.readResult k).stream.drop 1)

/-- The number in the first column of a row. -/
def countOf : ResultRow → Except DriverError Int
  | [] => .error (.columnOutOfBounds 0 0)
  | cell :: _ => decodeAs .count Datum.whole (.position 0) cell

/-- The number of rows of a kind: the first column of the first row of its count query. The result
is read to its end, so an error anywhere in it counts. -/
def countRows (c : Content) (k : Kind) : Except Fault Int :=
  let stream := (c.countResult k).stream
  let result : Except DriverError Int := match streamError? stream, stream with
    | some e, _ => .error e
    | none, .ok row :: _ => countOf row
    | none, _ => .error .rowNotFound
  result.mapError .driver

end Content

/-- The text of a refused connection. -/
def connectionRefused : String := "Connection refused (os error 111)"

/-- A connection to a source, if it can be had. -/
def Server.connect : Server → Except Fault Content
  | down => .error (.driver (.connection connectionRefused))
  | up content =>
    match content.refusal with
    | some message => .error (.driver message)
    | none => .ok content

end Backfill.Source
