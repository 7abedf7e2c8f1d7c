/-!
# Binary numbers of 64 bits

A finite number is an integer below 2⁵³ times a power of two not below 2⁻¹⁰⁷⁴. A decimal number is
rounded to the nearest of them, and to the one with an even mantissa if it lies halfway between
two.
-/

namespace Backfill.Decimal

inductive Binary64 where
  /-- A mantissa times a power of two. -/
  | finite (negative : Bool) (mantissa : Nat) (exponent : Int)
  | infinite (negative : Bool)
  | nan
deriving DecidableEq, Repr

/-- The quotient rounded to the nearest integer, and to the even one of two. -/
def roundDiv (num den : Nat) : Nat :=
  let q := num / den
  let twice := 2 * (num % den)
  if twice < den ∨ twice = den ∧ q % 2 = 0 then q else q + 1

namespace Binary64

/-- The exponent of the least numbers. -/
def minExponent : Int := -1074

/-- The exponent of the greatest numbers. -/
def maxExponent : Int := 971

/-- A quotient of positive numbers, times the power of two that makes it an integer numerator. -/
def scaled (num den : Nat) (exponent : Int) : Nat × Nat :=
  if exponent < 0 then (num <<< exponent.natAbs, den) else (num, den <<< exponent.natAbs)

/-- The exponent at which the quotient has 53 binary digits, or the least exponent. -/
def exponentOf (num den : Nat) : Int :=
  let guess : Int := (num.log2 : Int) - den.log2 - 52
  let (n, d) := scaled num den guess
  let exponent := if n < d <<< 52 then guess - 1 else guess
  max exponent minExponent

/-- The number nearest to a quotient. -/
def ofQuotient (negative : Bool) (num den : Nat) : Binary64 :=
  if num = 0 then finite negative 0 minExponent
  else
    let exponent := exponentOf num den
    let (n, d) := scaled num den exponent
    let mantissa := roundDiv n d
    let (mantissa, exponent) :=
      if mantissa = 1 <<< 53 then (1 <<< 52, exponent + 1) else (mantissa, exponent)
    if exponent > maxExponent then infinite negative else finite negative mantissa exponent

/-- The number nearest to `mantissa * 10 ^ exponent`. Beyond the bounds tested first, the power need
not be computed. -/
def ofDecimal (negative : Bool) (mantissa : Nat) (exponent : Int) : Binary64 :=
  let leading := exponent + (Nat.toDigits 10 mantissa).length
  if mantissa = 0 ∨ leading < -330 then finite negative 0 minExponent
  else if leading > 310 then infinite negative
  else if exponent < 0 then ofQuotient negative mantissa (Nat.pow 10 exponent.natAbs)
  else ofQuotient negative (mantissa * Nat.pow 10 exponent.natAbs) 1

end Binary64

end Backfill.Decimal
