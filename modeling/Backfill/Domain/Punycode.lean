import Backfill.Text.Digits

/-!
# Labels in ASCII disguise

A label with characters beyond ASCII can be written in ASCII alone. Its ASCII characters come first;
after the last hyphen follow numbers that say, in order of their code points, which characters are
to be put in, and where. A number is written in base 36 with the least digit first. It ends with a
digit below a threshold, which depends on the numbers before it.
-/

namespace Backfill.Domain.Punycode

/-- The value of a digit. -/
def digit? (c : Char) : Option Nat :=
  if 'a' ≤ c ∧ c ≤ 'z' then some (c.toNat - 'a'.toNat)
  else if c.isDigit then some (c.toNat - '0'.toNat + 26)
  else none

/-- What a digit must reach for a number to go on, at the given place. -/
def threshold (bias place : Nat) : Nat :=
  min 26 (max 1 (36 * place - bias))

/-- Code points and numbers are kept below this. -/
def limit : Nat := UInt32.size

/-- Reads a number, from the digit at the given place on: the number and what follows it. The digits
before make up `value`, and `weight` is what a digit counts. -/
def number? (bias place weight value : Nat) : List Char → Option (Nat × List Char)
  | [] => none
  | c :: cs => do
    let digit ← digit? c
    let value := value + digit * weight
    if value ≥ limit then none
    else
      let t := threshold bias place
      if digit < t then some (value, cs)
      else number? bias (place + 1) (weight * (36 - t)) value cs

theorem length_of_number? {bias place weight value n : Nat} {cs rest : List Char}
    (h : number? bias place weight value cs = some (n, rest)) : rest.length < cs.length := by
  induction cs generalizing place weight value with
  | nil => simp [number?] at h
  | cons c cs ih =>
    simp only [number?, Option.bind_eq_bind, Option.bind_eq_some_iff] at h
    obtain ⟨digit, _, h⟩ := h
    split at h
    · cases h
    · split at h
      · cases h
        simp
      · have := ih h
        simp only [List.length_cons]
        omega

/-- How often a number is divided by 35 until it is at most 455, and what is left. -/
def shrink (n : Nat) : Nat × Nat :=
  if 455 < n then
    let (times, rest) := shrink (n / 35)
    (times + 1, rest)
  else (0, n)
termination_by n
decreasing_by omega

/-- The bias after a number, when so many characters are there. -/
def adapt (number : Nat) (isFirst : Bool) (count : Nat) : Nat :=
  let n := if isFirst then number / 700 else number / 2
  let (times, rest) := shrink (n + n / count)
  36 * times + 36 * rest / (rest + 38)

/-- Puts characters in: the last one had code point `code` and stands before `place`. -/
def insertAll (bias code place : Nat) (isFirst : Bool) (out : List Char) (cs : List Char) :
    Option (List Char) :=
  if cs.isEmpty then some out
  else
    match h : number? bias 1 1 0 cs with
    | none => none
    | some (number, rest) =>
      have := length_of_number? h
      let count := out.length + 1
      let steps := place + number
      let code := code + steps / count
      if steps ≥ limit ∨ ¬ code.isValidChar then none
      else
        insertAll (adapt number isFirst count) code (steps % count + 1) false
          (out.insertIdx (steps % count) (Char.ofNat code)) rest
termination_by cs.length

/-- The label in disguise. -/
def decode? (cs : List Char) : Option (List Char) :=
  let ending := (cs.reverse.takeWhile (· ≠ '-')).reverse
  let plain := cs.take (cs.length - ending.length - 1)
  -- a hyphen at the very beginning divides nothing and is no digit either
  if plain.isEmpty ∧ ending.length < cs.length then none
  else insertAll 72 128 0 true plain ending

end Backfill.Domain.Punycode
