/-!
# Failures and crashes

A failure is a text with the texts of its causes, outermost first. Context added to a failure
becomes its outermost text. A crash ends the program at once, and no context is added to it.
-/

namespace Backfill

structure Failure where
  text : String
  causes : List String := []
deriving DecidableEq, Repr

namespace Failure

/-- All texts, outermost first. -/
def chain (f : Failure) : List String :=
  f.text :: f.causes

/-- The same failure, seen from further out. -/
def within (f : Failure) (context : String) : Failure :=
  ⟨context, f.chain⟩

/-- All texts on one line. -/
def inline (f : Failure) : String :=
  ": ".intercalate f.chain

@[simp] theorem chain_within (f : Failure) (context : String) :
    (f.within context).chain = context :: f.chain := rfl

end Failure

/-- What the program does not survive. -/
inductive Crash where
  /-- A date of the source lies outside of the calendar. -/
  | dateOutOfCalendar
  /-- The address of the graph names no host. -/
  | hostMissing
deriving DecidableEq, Repr

/-- The last words of a crash. -/
def Crash.text : Crash → String
  | dateOutOfCalendar => "`NaiveDateTime + TimeDelta` overflowed"
  | hostMissing => "called `Option::unwrap()` on a `None` value"

/-- What cuts work short. -/
inductive Interruption where
  | failure (failure : Failure)
  | crash (cause : Crash)
deriving DecidableEq, Repr

/-- An interruption seen from further out: only a failure takes the context. -/
def Interruption.within (context : String) : Interruption → Interruption
  | failure f => failure (f.within context)
  | crash cause => crash cause

end Backfill
