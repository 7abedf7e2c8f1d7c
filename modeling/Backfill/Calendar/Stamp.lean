import Backfill.Calendar.Instant
import Backfill.Text.Digits

/-!
# Written instants

The stamp of an instant is the form in which it is stored, such as `2015-05-01T12:30:00.000000Z`:
six fraction digits, the rest cut off. The long form, such as `2015-05-01 12:30:00 UTC`, has no
fraction where it is zero and else the shortest of three, six and nine digits that is exact.
Beside the stamp stands the function that reads one back.
-/

namespace Backfill.Calendar

open Text

/-- A year has four digits, or a sign and at least four digits outside 0 to 9999. -/
def yearText (year : Int) : List Char :=
  if 0 ≤ year ∧ year ≤ 9999 then zeroPadded 4 year.natAbs
  else (if year < 0 then '-' else '+') :: zeroPadded 4 year.natAbs

def dateText (d : Date) : List Char :=
  yearText d.year ++ '-' :: zeroPadded 2 d.month ++ '-' :: zeroPadded 2 d.day

def clockText (hour minute second : Nat) : List Char :=
  zeroPadded 2 hour ++ ':' :: zeroPadded 2 minute ++ ':' :: zeroPadded 2 second

namespace Instant

/-- The characters of the stamp. -/
def stampChars (i : Instant) : List Char :=
  let t := i.dateTime
  dateText t.date ++ 'T' :: clockText t.hour t.minute i.shownSecond ++
    '.' :: zeroPadded 6 (i.shownNanos / 1000) ++ ['Z']

/-- The form in which an instant is stored. -/
def stamp (i : Instant) : String :=
  String.ofList i.stampChars

/-- The fraction of a second, with no more groups of three digits than it needs. -/
def fractionText (nanos : Nat) : List Char :=
  if nanos = 0 then []
  else if nanos % 1000000 = 0 then '.' :: zeroPadded 3 (nanos / 1000000)
  else if nanos % 1000 = 0 then '.' :: zeroPadded 6 (nanos / 1000)
  else '.' :: zeroPadded 9 nanos

/-- The long form, for people. -/
def longForm (i : Instant) : String :=
  let t := i.dateTime
  String.ofList (dateText t.date ++ ' ' :: clockText t.hour t.minute i.shownSecond ++
    fractionText i.shownNanos ++ " UTC".toList)

end Instant

/-! ### Reading stamps -/

/-- The number in a field of so many digits, and what follows it. -/
def field? (width : Nat) (cs : List Char) : Option (Nat × List Char) :=
  let ds := cs.take width
  if ds.length = width ∧ ds.all Char.isDigit then some (ofDigits ds, cs.drop width) else none

/-- The number in a field after the given character. -/
def fieldAfter? (mark : Char) (width : Nat) : List Char → Option (Nat × List Char)
  | c :: cs => if c = mark then field? width cs else none
  | [] => none

/-- A year with its sign, if there is one, and what follows it. -/
def year? (cs : List Char) : Option (Int × List Char) :=
  let number (cs : List Char) : Option (Nat × List Char) :=
    field? (cs.takeWhile Char.isDigit).length cs
  match cs with
  | '-' :: cs => (number cs).map fun (n, rest) => (-(n : Int), rest)
  | '+' :: cs => (number cs).map fun (n, rest) => ((n : Int), rest)
  | cs => (number cs).map fun (n, rest) => ((n : Int), rest)

/-- The civil time that a stamp shows. In a leap second that is second 60. -/
def ofStamp? (cs : List Char) : Option DateTime := do
  let (year, cs) ← year? cs
  let (month, cs) ← fieldAfter? '-' 2 cs
  let (day, cs) ← fieldAfter? '-' 2 cs
  let (hour, cs) ← fieldAfter? 'T' 2 cs
  let (minute, cs) ← fieldAfter? ':' 2 cs
  let (second, cs) ← fieldAfter? ':' 2 cs
  let (micros, cs) ← fieldAfter? '.' 6 cs
  if cs = ['Z'] then some ⟨⟨year, month, day⟩, hour, minute, second, 1000 * micros⟩ else none

/-- Seconds and microseconds of a civil time. Second 60 continues second 59. -/
def DateTime.toMicros (t : DateTime) : Int × Nat :=
  if t.second = 60 then (t.toSeconds - 1, 1000000 + t.nanos / 1000)
  else (t.toSeconds, t.nanos / 1000)

end Backfill.Calendar
