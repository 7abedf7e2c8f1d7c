import Backfill.Toml.Text
import Backfill.Toml.Value

/-!
# Numbers, dates and times of TOML

Digits may be divided by single underscores. Integers have 64 bits.
-/

namespace Backfill.Toml

open Decimal

/-! ### Digits -/

/-- Digits of a kind, each further one after at most one underscore; the underscores are left out. -/
def moreDigits? (isDigit : Char → Bool) : Reader (List Char)
  | [] => some ([], [])
  | '_' :: rest =>
    match rest with
    | c :: rest => if isDigit c then push c (moreDigits? isDigit rest) else none
    | [] => none
  | c :: rest => if isDigit c then push c (moreDigits? isDigit rest) else some ([], c :: rest)

/-- At least one digit of a kind. -/
def digits? (isDigit : Char → Bool) : Reader (List Char)
  | c :: rest => if isDigit c then push c (moreDigits? isDigit rest) else none
  | [] => none

/-- A sign, where a minus counts as negative. -/
def sign : List Char → Bool × List Char
  | '-' :: rest => (true, rest)
  | '+' :: rest => (false, rest)
  | cs => (false, cs)

/-- A decimal integer without needless zeros, as its sign and digits. -/
def decimal? : Reader (Bool × List Char) := fun cs =>
  let (negative, rest) := sign cs
  match rest with
  | '0' :: rest => some ((negative, ['0']), rest)
  | rest => (digits? Char.isDigit rest).map fun (ds, rest) => ((negative, ds), rest)

/-- The number that digits denote in a base. -/
def ofBase (base : Nat) (ds : List Char) : Nat :=
  ds.foldl (fun n c => base * n + (Text.hexDigit? c).getD 0) 0

/-! ### Integers -/

/-- An integer, if it has 64 bits. -/
def fits? (n : Int) : Option Int :=
  if Int64.minValue.toInt ≤ n ∧ n ≤ Int64.maxValue.toInt then some n else none

/-- An integer in the given base, after its mark. -/
def based? (base : Nat) : Reader Int := fun cs => do
  let (ds, rest) ← digits? (fun c => (Text.hexDigit? c).any (· < base)) cs
  let n ← fits? (ofBase base ds)
  return (n, rest)

def integer? : Reader Int
  | '0' :: 'x' :: rest => based? 16 rest
  | '0' :: 'o' :: rest => based? 8 rest
  | '0' :: 'b' :: rest => based? 2 rest
  | cs => do
    let ((negative, ds), rest) ← decimal? cs
    let n : Int := ofBase 10 ds
    let n ← fits? (if negative then -n else n)
    return (n, rest)

/-! ### Floating-point numbers -/

/-- The digits after the point, if there is one. -/
def fraction? : Reader (List Char)
  | '.' :: rest => digits? Char.isDigit rest
  | _ => none

/-- The power of ten, if there is one. -/
def exponent? : Reader Int
  | c :: rest =>
    if c = 'e' ∨ c = 'E' then
      let (negative, rest) := sign rest
      (digits? Char.isDigit rest).map fun (ds, rest) =>
        let n : Int := ofBase 10 ds
        (if negative then -n else n, rest)
    else none
  | [] => none

/-- A number with a fraction, a power of ten, or both. One that is too great is refused if it is
positive. -/
def finite? : Reader Binary64 := fun cs => do
  let ((negative, whole), rest) ← decimal? cs
  let (fraction, power, rest) ←
    match fraction? rest with
    | some (fraction, rest) =>
      match exponent? rest with
      | some (power, rest) => some (fraction, power, rest)
      | none => some (fraction, 0, rest)
    | none => (exponent? rest).map fun (power, rest) => ([], power, rest)
  let x := Binary64.ofDecimal negative (ofBase 10 (whole ++ fraction)) (power - fraction.length)
  if x = .infinite false then none else return (x, rest)

/-- Infinity, or what is not a number. -/
def special? : Reader Binary64 := fun cs =>
  let (negative, rest) := sign cs
  match rest with
  | 'i' :: 'n' :: 'f' :: rest => some (.infinite negative, rest)
  | 'n' :: 'a' :: 'n' :: rest => some (.nan, rest)
  | _ => none

/-! ### Dates and times -/

/-- A number of exactly so many digits. -/
def fixed? : Nat → Reader Nat
  | count, cs =>
    let ds := cs.take count
    if ds.length = count ∧ ds.all Char.isDigit then some (ofBase 10 ds, cs.drop count) else none

/-- A number of two digits between bounds. -/
def field? (low high : Nat) : Reader Nat := fun cs => do
  let (n, rest) ← fixed? 2 cs
  if low ≤ n ∧ n ≤ high then return (n, rest) else none

def char1? (c : Char) : List Char → Option (List Char)
  | d :: rest => if d = c then some rest else none
  | [] => none

/-- The number of days of a month, in a year that may be a leap year. -/
def monthDays (year month : Nat) : Nat :=
  if month = 2 then
    if year % 4 = 0 ∧ (year % 100 ≠ 0 ∨ year % 400 = 0) then 29 else 28
  else if month = 4 ∨ month = 6 ∨ month = 9 ∨ month = 11 then 30
  else 31

/-- The rest after a date. -/
def date? (cs : List Char) : Option (List Char) := do
  let (year, rest) ← fixed? 4 cs
  let (month, rest) ← field? 1 12 (← char1? '-' rest)
  let (_, rest) ← field? 1 (monthDays year month) (← char1? '-' rest)
  return rest

/-- The rest after a time of day. -/
def time? (cs : List Char) : Option (List Char) := do
  let (_, rest) ← field? 0 23 cs
  let (_, rest) ← field? 0 59 (← char1? ':' rest)
  let (_, rest) ← field? 0 60 (← char1? ':' rest)
  match rest with
  | '.' :: fraction =>
    if (fraction.takeWhile Char.isDigit).isEmpty then none
    else return fraction.dropWhile Char.isDigit
  | rest => return rest

/-- The rest after a distance from UTC, if there is one. -/
def offset? : List Char → Option (List Char)
  | 'Z' :: rest | 'z' :: rest => some rest
  | '+' :: rest | '-' :: rest => do
    let (_, rest) ← field? 0 23 rest
    let (_, rest) ← field? 0 59 (← char1? ':' rest)
    return rest
  | rest => some rest

/-- The rest after a date, a date and a time, or a time. A letter or a blank divides the two. -/
def dateTimeEnd? (cs : List Char) : Option (List Char) :=
  match date? cs with
  | some rest =>
    match rest with
    | c :: later =>
      if c = 'T' ∨ c = 't' ∨ c = ' ' then
        match time? later with
        | some rest => offset? rest
        | none => some rest
      else some rest
    | [] => some []
  | none => time? cs

/-- A date, a time, or both. -/
def dateTime? : Reader String := fun cs =>
  (dateTimeEnd? cs).map fun rest =>
    (String.ofList (cs.take (cs.length - rest.length)), rest)

/-! ### Scalars -/

/-- A value other than an array or a table. A number is tried as a date or time first, then as a
number with a fraction or a power, then as an integer. -/
def scalar? : Reader Value := fun cs =>
  match cs with
  | 't' :: 'r' :: 'u' :: 'e' :: rest => some (.boolean true, rest)
  | 'f' :: 'a' :: 'l' :: 's' :: 'e' :: rest => some (.boolean false, rest)
  | cs =>
    ((string? cs).map fun (s, rest) => (.string (String.ofList s), rest)) <|>
    ((dateTime? cs).map fun (t, rest) => (.dateTime t, rest)) <|>
    ((finite? cs).map fun (x, rest) => (.float x, rest)) <|>
    ((special? cs).map fun (x, rest) => (.float x, rest)) <|>
    ((integer? cs).map fun (n, rest) => (.integer n, rest))

end Backfill.Toml
