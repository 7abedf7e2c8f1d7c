/-!
# Decimal digits and aligned fields

Numbers are written in base ten, with a minus sign in front of negative ones. A field of fixed
width is filled up with zeros or blanks and is never cut.
-/

namespace Backfill.Text

/-- The decimal digits of a number, most significant first. -/
def digits (n : Nat) : List Char :=
  Nat.toDigits 10 n

/-- The number that a list of decimal digits denotes. -/
def ofDigits (ds : List Char) : Nat :=
  Nat.ofDigitChars 10 ds 0

@[simp] theorem ofDigits_digits (n : Nat) : ofDigits (digits n) = n :=
  Nat.ofDigitChars_toDigits (by decide) (by decide)

theorem digits_ne_nil (n : Nat) : digits n ≠ [] :=
  Nat.toDigits_ne_nil

theorem isDigit_of_mem_digits {n : Nat} {c : Char} (h : c ∈ digits n) : c.isDigit :=
  Nat.isDigit_of_mem_toDigits (by decide) (by decide) h

/-- The value of a hexadecimal digit. -/
def hexDigit? (c : Char) : Option Nat :=
  if c.isDigit then some (c.toNat - '0'.toNat)
  else if 'a' ≤ c ∧ c ≤ 'f' then some (c.toNat - 'a'.toNat + 10)
  else if 'A' ≤ c ∧ c ≤ 'F' then some (c.toNat - 'A'.toNat + 10)
  else none

/-- The digits of a number, with zeros in front up to the given width. -/
def zeroPadded (width n : Nat) : List Char :=
  (digits n).leftpad width '0'

theorem isDigit_of_mem_zeroPadded {width n : Nat} {c : Char} (h : c ∈ zeroPadded width n) :
    c.isDigit := by
  rcases List.mem_append.mp h with h | h
  · rw [List.eq_of_mem_replicate h]
    rfl
  · exact isDigit_of_mem_digits h

theorem zeroPadded_ne_nil (width n : Nat) : zeroPadded width n ≠ [] :=
  List.append_ne_nil_of_right_ne_nil _ (digits_ne_nil n)

@[simp] theorem ofDigits_zeroPadded (width n : Nat) : ofDigits (zeroPadded width n) = n := by
  have h : Nat.ofDigitChars 10 (List.replicate (width - (digits n).length) '0') 0 = 0 := by
    rw [Nat.ofDigitChars_replicate_zero, Nat.mul_zero]
  rw [ofDigits, zeroPadded, List.leftpad, Nat.ofDigitChars_append, h]
  exact ofDigits_digits n

theorem length_zeroPadded {width n : Nat} (h : (digits n).length ≤ width) :
    (zeroPadded width n).length = width := by
  rw [zeroPadded, List.length_leftpad, Nat.max_eq_left h]

/-- A natural number as text. -/
def nat (n : Nat) : String :=
  String.ofList (digits n)

/-- An integer as text. -/
def int (n : Int) : String :=
  if n < 0 then "-" ++ nat n.natAbs else nat n.natAbs

/-- A text at the left of a field of the given width. -/
def alignLeft (width : Nat) (s : String) : String :=
  s ++ String.ofList (List.replicate (width - s.length) ' ')

/-- A text at the right of a field of the given width. -/
def alignRight (width : Nat) (s : String) : String :=
  String.ofList (List.replicate (width - s.length) ' ') ++ s

end Backfill.Text
