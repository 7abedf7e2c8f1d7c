import Backfill.Journal
import Backfill.Settings

/-!
# Sessions with the source

A session opens with a connection and ends with a farewell. Each query is noted before its result
is read. A result need not be read to its end: the rest of it is skipped before the next query, and
an error in that rest takes the place of the query.
-/

namespace Backfill.Source

variable {σ : Type}

/-- A session that is open. -/
structure Session where
  content : Content
  /-- The error in what has not been read of the last result. -/
  unread : Option DriverError := none

/-- The session after a query of which the result has been read to its end. -/
def Session.caughtUp (s : Session) : Session :=
  { s with unread := none }

/-- Opens a session. A server that is down takes no request. -/
def openSession (settings : SourceSettings) (server : Server) : Work σ (Except Fault Session) := do
  if let .up _ := server then
    Work.ask (.connect settings.user settings.database settings.password)
  let result := server.connect
  if let .ok _ := result then
    Work.report (.sourceConnected settings.host settings.port settings.database)
  return result.map fun content => { content := content }

/-- The rows of a kind. -/
def readRows (s : Session) (kind : Kind) : Work σ Feed := do
  match s.unread with
  | some e => return ⟨[.error (.driver e)], false⟩
  | none =>
    Work.ask (.query kind.descriptor.readQuery)
    return s.content.feed kind

/-- The first row of a kind, and the session with the rest of the rows unread. -/
def readFirst (s : Session) (kind : Kind) : Work σ (Feed × Session) := do
  let feed ← readRows s kind
  let unread := if s.unread.isSome then none else s.content.rest? kind
  return (feed.first, { s with unread := unread })

/-- The number of rows of a kind. -/
def countRows (s : Session) (kind : Kind) : Work σ (Except Fault Int) := do
  match s.unread with
  | some e => return .error (.driver e)
  | none =>
    Work.ask (.query kind.descriptor.countQuery)
    let result := s.content.countRows kind
    if let .ok count := result then
      Work.report (.rowsCounted kind count)
    return result

/-- Ends a session. -/
def closeSession : Work σ Unit := do
  Work.ask .terminate
  Work.report .sourceClosed

end Backfill.Source
