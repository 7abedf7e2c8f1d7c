import Backfill.Event
import Backfill.Failure

/-!
# Attempts at a write

A writer sets the property on the nodes that match a row. Nothing is assumed of it: an attempt is
any transition on a state of its own, with a result. A write that fails is attempted again after a
pause, until it succeeds or the attempts are used up. Time is virtual; only pauses take any, each as
long as its delay, or thirty years if that is longer.
-/

namespace Backfill.Sync

/-- One attempt at a write: the number of nodes matched, or a failure, and the state after it. -/
abbrev Writer (σ : Type) := Descriptor → Row → σ → Except Failure Int × σ

/-- An attempt, with the milliseconds since the run began. -/
structure Call where
  time : Nat
  row : Row
deriving DecidableEq

/-- The attempts at one write, and how they ended. -/
structure Attempts (σ : Type) where
  result : Except Failure Int
  state : σ
  /-- The time at which the last attempt was made. -/
  time : Nat
  calls : List Call
  events : List Event

/-- A failure of the last of so many attempts. -/
def gaveUp (attempts : UInt32) (e : Failure) : Failure :=
  e.within ("gave up after " ++ Text.nat attempts.toNat ++ " attempt(s)")

/-- The longest pause in milliseconds: thirty years of 365 days. -/
def longestPause : Nat :=
  30 * 365 * 86400 * 1000

/-- How long a pause of the given delay takes. -/
def pause (delay : UInt64) : Nat :=
  min delay.toNat longestPause

/-- A delay of up to thirty years is kept to the millisecond. -/
theorem pause_eq_toNat {delay : UInt64} (h : delay.toNat ≤ longestPause) :
    pause delay = delay.toNat :=
  Nat.min_eq_left h

/-- Attempts at a write from the given attempt on, of which `left` may follow it. -/
def attemptFrom (w : Writer σ) (d : Descriptor) (row : Row) (p : RetryPolicy) (left : Nat)
    (attempt : UInt32) (time : Nat) (s : σ) : Attempts σ :=
  let call : Call := ⟨time, row⟩
  match w d row s, left with
  | (.ok matched, s), _ => ⟨.ok matched, s, time, [call], []⟩
  | (.error e, s), 0 => ⟨.error (gaveUp p.attempts e), s, time, [call], []⟩
  | (.error e, s), left + 1 =>
    let delay := p.backoff attempt
    let later := attemptFrom w d row p left (attempt + 1) (time + pause delay) s
    { later with
      calls := call :: later.calls
      events := .retrying row.key attempt p.attempts delay e.text :: later.events }

/-- A write with all attempts that the policy grants it. -/
def write (w : Writer σ) (d : Descriptor) (row : Row) (p : RetryPolicy) (time : Nat) (s : σ) :
    Attempts σ :=
  attemptFrom w d row p (p.attempts.toNat - 1) 1 time s

end Backfill.Sync
