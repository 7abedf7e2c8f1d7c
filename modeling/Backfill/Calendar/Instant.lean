import Backfill.Calendar.Date

/-!
# Instants

An instant is a number of whole seconds since 1970-01-01T00:00:00Z and the nanoseconds within that
second. Nanoseconds from 10⁹ on mark a leap second, which continues the last second of a minute.
The type holds exactly the instants that can be represented.
-/

namespace Backfill.Calendar

/-- A civil date and time of day. A leap second is second 59 with at least 10⁹ nanoseconds. -/
structure DateTime where
  date : Date
  hour : Nat
  minute : Nat
  second : Nat
  nanos : Nat
deriving DecidableEq, Repr

/-- Nanoseconds that may follow a second: a leap second only follows the last one of a minute. -/
def NanosFit (last : Prop) (nanos : Nat) : Prop :=
  nanos < 1000000000 ∨ last ∧ nanos < 2000000000

instance (last : Prop) [Decidable last] (nanos : Nat) : Decidable (NanosFit last nanos) := by
  unfold NanosFit
  infer_instance

namespace DateTime

def Valid (t : DateTime) : Prop :=
  t.date.Valid ∧ t.hour < 24 ∧ t.minute < 60 ∧ t.second < 60 ∧ NanosFit (t.second = 59) t.nanos

instance (t : DateTime) : Decidable t.Valid := by
  unfold Valid
  infer_instance

/-- Seconds since 1970-01-01T00:00:00Z, the time being read as UTC. -/
def toSeconds (t : DateTime) : Int :=
  86400 * t.date.toDays + 3600 * t.hour + 60 * t.minute + t.second

/-- The civil time of a number of seconds since 1970-01-01T00:00:00Z. -/
def ofSeconds (secs : Int) (nanos : Nat) : DateTime :=
  let inDay := (secs % 86400).toNat
  { date := Date.ofDays (secs / 86400)
    hour := inDay / 3600
    minute := inDay / 60 % 60
    second := inDay % 60
    nanos := nanos }

end DateTime

/-- Seconds of 1 January of the first year, at midnight. -/
def minSeconds : Int := 86400 * Date.toDays ⟨minYear, 1, 1⟩

/-- The last second of the last year. -/
def maxSeconds : Int := 86400 * Date.toDays ⟨maxYear, 12, 31⟩ + 86399

structure Instant where
  secs : Int
  nanos : Nat
  inRange : minSeconds ≤ secs ∧ secs ≤ maxSeconds
  nanosFit : NanosFit (secs % 60 = 59) nanos
deriving DecidableEq

namespace Instant

/-- The instant of the given seconds and nanoseconds, if it can be represented. -/
def ofParts? (secs : Int) (nanos : Nat) : Option Instant :=
  if h : (minSeconds ≤ secs ∧ secs ≤ maxSeconds) ∧ NanosFit (secs % 60 = 59) nanos then
    some ⟨secs, nanos, h.1, h.2⟩
  else none

/-- A civil time without a zone, read as UTC. -/
def ofDateTime? (t : DateTime) : Option Instant :=
  if t.Valid then ofParts? t.toSeconds t.nanos else none

/-- The civil time of an instant in UTC. -/
def dateTime (i : Instant) : DateTime :=
  DateTime.ofSeconds i.secs i.nanos

/-- The second that is printed: 60 in a leap second. -/
def shownSecond (i : Instant) : Nat :=
  i.dateTime.second + i.nanos / 1000000000

/-- The nanoseconds within the printed second. -/
def shownNanos (i : Instant) : Nat :=
  i.nanos % 1000000000

end Instant

end Backfill.Calendar
