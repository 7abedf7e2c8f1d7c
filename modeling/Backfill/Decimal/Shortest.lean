import Backfill.Decimal.Binary64
import Backfill.Text.Digits

/-!
# Shortest decimals

A binary number is written with the fewest decimal digits that are rounded back to it. For each
number of digits in turn, the two decimals next to the value are compared with the interval of
numbers that are rounded to it; the first hit wins, and of two hits the nearer one, or the one above
if they are equally near.
-/

namespace Backfill.Decimal

/-- The decimal `0.d₁d₂… * 10 ^ (exponent + 1)`, where `d₁` is not zero. -/
structure Shortest where
  digits : List Char
  exponent : Int
deriving DecidableEq, Repr

/-- The position of the leading decimal digit of a positive quotient: 0 for the units. -/
def leadingPosition (num den : Nat) : Int :=
  if den ≤ num then (Text.digits (num / den)).length - 1
  else
    let shift := (Text.digits den).length - (Text.digits num).length
    if den ≤ num * Nat.pow 10 shift then -(shift : Int) else -(shift + 1 : Int)

/-- The value of `mantissa * 2 ^ exponent` and the bounds of what is rounded to it, in quarters of
a unit of the mantissa: below a power of two the numbers lie closer together. -/
structure Interval where
  value : Nat
  low : Nat
  high : Nat
  /-- Whether the bounds themselves are rounded to the value. -/
  closed : Bool

def intervalOf (mantissa : Nat) (exponent : Int) : Interval :=
  { value := 4 * mantissa
    low := 4 * mantissa -
      if mantissa = 1 <<< 52 ∧ Binary64.minExponent < exponent then 1 else 2
    high := 4 * mantissa + 2
    closed := mantissa % 2 = 0 }

/-- The decimal with the given number of digits that is nearest to the value among those that are
rounded to it, the greater one of two equally near. -/
def withDigits? (mantissa : Nat) (exponent : Int) (leading : Int) (count : Nat) : Option Nat :=
  let i := intervalOf mantissa exponent
  -- a decimal is a multiple of `10 ^ step`, a quarter is `2 ^ quarter`; both are made integers
  let step := leading - count + 1
  let quarter := exponent - 2
  let unit := Nat.pow 10 step.toNat <<< (-quarter).toNat
  let scale := Nat.pow 10 (-step).toNat <<< quarter.toNat
  let fits (n : Nat) : Bool :=
    if i.closed then i.low * scale ≤ n * unit && n * unit ≤ i.high * scale
    else i.low * scale < n * unit && n * unit < i.high * scale
  let below := i.value * scale / unit
  let above := below + 1
  if fits below then
    if fits above && above * unit - i.value * scale ≤ i.value * scale - below * unit then some above
    else some below
  else if fits above then some above
  else none

/-- Digits without the zeros at the end. -/
def dropZeros (ds : List Char) : List Char :=
  (ds.reverse.dropWhile (· == '0')).reverse

/-- The shortest decimal of a positive number. Seventeen digits are always enough. -/
def shortest (mantissa : Nat) (exponent : Int) : Shortest :=
  let num := mantissa <<< exponent.toNat
  let den := 1 <<< (-exponent).toNat
  let leading := leadingPosition num den
  let found := (List.range 17).findSome? fun k =>
    (withDigits? mantissa exponent leading (k + 1)).map fun n => (n, k + 1)
  match found with
  | none => ⟨['0'], 0⟩
  | some (n, count) =>
    let ds := Text.digits n
    -- a decimal rounded up to a power of ten has one digit more
    ⟨dropZeros ds, leading + (ds.length - count)⟩

/-- Digits in positional notation, with at least one digit on either side of the point. -/
def positional (s : Shortest) : List Char :=
  if s.exponent < 0 then
    '0' :: '.' :: List.replicate (s.exponent.natAbs - 1) '0' ++ s.digits
  else
    let whole := s.exponent.toNat + 1
    let padded := s.digits ++ List.replicate (whole - s.digits.length) '0'
    let fraction := padded.drop whole
    padded.take whole ++ '.' :: if fraction.isEmpty then ['0'] else fraction

/-- Digits in scientific notation, with a point only where digits follow it. -/
def scientific (s : Shortest) : List Char :=
  let mantissa := match s.digits with
    | [] => ['0']
    | [d] => [d]
    | d :: ds => d :: '.' :: ds
  mantissa ++ 'e' :: (Text.int s.exponent).toList

/-- Which powers of ten are written in positional notation. -/
structure FloatStyle where
  least : Option Int
  greatest : Option Int

/-- A number is written in full, whatever its size. -/
def FloatStyle.full : FloatStyle :=
  ⟨none, none⟩

/-- Numbers below 10⁻⁴ and from 10¹⁶ on are written with an exponent. -/
def FloatStyle.compact : FloatStyle :=
  ⟨some (-4), some 15⟩

def Binary64.text (style : FloatStyle) : Binary64 → String
  | nan => "NaN"
  | infinite negative => if negative then "-inf" else "inf"
  | finite negative mantissa exponent =>
    let body :=
      if mantissa = 0 then ['0', '.', '0']
      else
        let s := shortest mantissa exponent
        if style.least.all (· ≤ s.exponent) ∧ style.greatest.all (s.exponent ≤ ·) then positional s
        else scientific s
    String.ofList (if negative then '-' :: body else body)

end Backfill.Decimal
