/-!
# Retry policies

A failing write is tried again after a pause that doubles from one retry to the next, up to a cap.
All of it is 64-bit arithmetic, and the pause never wraps around: a shift or a product that does not
fit is taken as the largest word, which the cap then cuts.
-/

namespace Backfill

structure RetryPolicy where
  /-- The most attempts per write, the first one included. -/
  maxAttempts : UInt32 := 3
  /-- The pause before the first retry, in milliseconds. -/
  initialBackoff : UInt64 := 200
  /-- The longest pause, in milliseconds. -/
  maxBackoff : UInt64 := 5000
deriving DecidableEq, Repr

namespace RetryPolicy

/-- One attempt and no retry. -/
def once : RetryPolicy :=
  ⟨1, 0, 0⟩

/-- The number of attempts per write. There is always one. -/
def attempts (p : RetryPolicy) : UInt32 :=
  max p.maxAttempts 1

/-- The largest 64-bit word. -/
def maxWord : UInt64 := 0xffffffffffffffff

/-- Two to the given power, or the largest word where it does not fit. -/
def doublings (n : UInt32) : UInt64 :=
  if n < 64 then 1 <<< n.toUInt64 else maxWord

/-- A product that stops at the largest word. -/
def mulSaturating (a b : UInt64) : UInt64 :=
  if a.toNat * b.toNat ≤ maxWord.toNat then a * b else maxWord

/-- The pause before the given retry, in milliseconds; the first retry is number 1. -/
def backoff (p : RetryPolicy) (retry : UInt32) : UInt64 :=
  let earlier := if retry = 0 then 0 else retry - 1
  min (mulSaturating p.initialBackoff (doublings earlier)) p.maxBackoff

end RetryPolicy

end Backfill
