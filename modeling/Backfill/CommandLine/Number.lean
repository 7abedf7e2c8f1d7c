import Backfill.Text.Digits

/-!
# Numbers on the command line

A number is an optional sign and decimal digits. It is read as a signed 64-bit integer first and
then compared with the bounds of the option that it is for.
-/

namespace Backfill.CommandLine

/-- Why a text is not a number that an option takes. -/
inductive NumberFault where
  | empty
  | invalidDigit
  | tooLarge
  | tooSmall
  | outside (value : Int) (max : Nat)
deriving DecidableEq, Repr

def NumberFault.text : NumberFault → String
  | empty => "cannot parse integer from empty string"
  | invalidDigit => "invalid digit found in string"
  | tooLarge => "number too large to fit in target type"
  | tooSmall => "number too small to fit in target type"
  | outside value max => Text.int value ++ " is not in 0..=" ++ Text.nat max

/-- The number that digits denote after those read so far, up to a limit. Reading stops at the
first character that is no digit, or at the first digit that leads beyond the limit. -/
def readDigits (limit : Nat) (beyond : NumberFault) (n : Nat) : List Char → Except NumberFault Nat
  | [] => .ok n
  | c :: cs =>
    if !c.isDigit then .error .invalidDigit
    else
      let n := 10 * n + (c.toNat - '0'.toNat)
      if n > limit then .error beyond else readDigits limit beyond n cs

/-- A signed 64-bit integer. -/
def readInt64 (text : String) : Except NumberFault Int :=
  let positive (cs : List Char) : Except NumberFault Int :=
    (fun n : Nat => (n : Int)) <$> readDigits Int64.maxValue.toInt.natAbs .tooLarge 0 cs
  match text.toList with
  | [] => .error .empty
  | ['+'] | ['-'] => .error .invalidDigit
  | '+' :: cs => positive cs
  | '-' :: cs => (fun n : Nat => -(n : Int)) <$> readDigits Int64.minValue.toInt.natAbs .tooSmall 0 cs
  | cs => positive cs

/-- A number from 0 to the given one. -/
def readNumber (max : Nat) (text : String) : Except NumberFault Nat := do
  let n ← readInt64 text
  if 0 ≤ n ∧ n ≤ max then return n.toNat else throw (.outside n max)

end Backfill.CommandLine
