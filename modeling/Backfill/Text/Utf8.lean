import Backfill.Text.Digits

/-!
# Reading UTF-8

Bytes are read one at a time. Inside a character, the bytes still expected and the range of the
next one are kept; the range of the second byte excludes overlong forms, surrogates and code points
beyond the last one. A fault names the position of the character in which it lies.
-/

namespace Backfill.Text

/-- Why bytes are not UTF-8. -/
inductive Utf8Fault where
  /-- From `index` on, `length` bytes begin a character that the next byte cannot continue. -/
  | invalid (index length : Nat)
  /-- The bytes end inside the character that begins at `index`. -/
  | incomplete (index : Nat)
deriving DecidableEq, Repr

def Utf8Fault.text : Utf8Fault → String
  | invalid index length =>
    "invalid utf-8 sequence of " ++ nat length ++ " bytes from index " ++ nat index
  | incomplete index => "incomplete utf-8 byte sequence from index " ++ nat index

namespace Utf8

/-- A character of which some bytes have been read. -/
structure Pending where
  /-- The position of its first byte. -/
  start : Nat
  /-- The bits read so far. -/
  code : Nat
  /-- The number of bytes read. -/
  seen : Nat
  /-- The number of bytes to come, less one. -/
  more : Nat
  /-- The least byte that may come next. -/
  low : UInt8
  /-- The greatest byte that may come next. -/
  high : UInt8

/-- What a first byte says of the character that it begins. -/
def first (start : Nat) (b : UInt8) : Option Pending :=
  if b < 0xc2 then none
  else if b ≤ 0xdf then some ⟨start, b.toNat % 32, 1, 0, 0x80, 0xbf⟩
  else if b ≤ 0xef then
    some ⟨start, b.toNat % 16, 1, 1, if b = 0xe0 then 0xa0 else 0x80, if b = 0xed then 0x9f else 0xbf⟩
  else if b ≤ 0xf4 then
    some ⟨start, b.toNat % 8, 1, 2, if b = 0xf0 then 0x90 else 0x80, if b = 0xf4 then 0x8f else 0xbf⟩
  else none

/-- The characters of the bytes from position `index` on, given the character being read. -/
def decodeFrom (index : Nat) : Option Pending → List UInt8 → Except Utf8Fault (List Char)
  | none, [] => .ok []
  | some p, [] => .error (.incomplete p.start)
  | none, b :: rest =>
    if b < 0x80 then
      (Char.ofNat b.toNat :: ·) <$> decodeFrom (index + 1) none rest
    else
      match first index b with
      | none => .error (.invalid index 1)
      | some p => decodeFrom (index + 1) (some p) rest
  | some p, b :: rest =>
    if p.low ≤ b ∧ b ≤ p.high then
      let code := 64 * p.code + b.toNat % 64
      match p.more with
      | 0 => (Char.ofNat code :: ·) <$> decodeFrom (index + 1) none rest
      | more + 1 => decodeFrom (index + 1) (some ⟨p.start, code, p.seen + 1, more, 0x80, 0xbf⟩) rest
    else .error (.invalid p.start p.seen)

end Utf8

/-- The text that bytes encode, or the first fault in them. -/
def decodeUtf8 (bytes : List UInt8) : Except Utf8Fault String :=
  String.ofList <$> Utf8.decodeFrom 0 none bytes

end Backfill.Text
