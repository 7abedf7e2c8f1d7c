import Backfill.Event
import Backfill.Source.Server

/-!
# Journals and work

A journal keeps what a command has asked of the source, what it has reported and what it has
printed, each in order. Work is a part of a command: it changes the state of the graph, adds to the
journal, and gives a result or is cut short.
-/

namespace Backfill

structure Journal where
  requests : List Source.Request := []
  events : List Event := []
  /-- The printed lines. -/
  lines : List String := []

namespace Journal

instance : Append Journal where
  append a b := ⟨a.requests ++ b.requests, a.events ++ b.events, a.lines ++ b.lines⟩

@[simp] theorem requests_append (a b : Journal) :
    (a ++ b).requests = a.requests ++ b.requests := rfl

@[simp] theorem events_append (a b : Journal) : (a ++ b).events = a.events ++ b.events := rfl

@[simp] theorem lines_append (a b : Journal) : (a ++ b).lines = a.lines ++ b.lines := rfl

end Journal

/-- Work that has been done on a state. -/
structure Done (σ α : Type) where
  result : Except Interruption α
  state : σ
  journal : Journal := {}

/-- Work on a state. -/
def Work (σ α : Type) : Type :=
  σ → Done σ α

namespace Work

variable {σ α β : Type}

instance : Monad (Work σ) where
  pure a := fun s => { result := .ok a, state := s }
  bind w f := fun s =>
    let first := w s
    match first.result with
    | .error e => { result := .error e, state := first.state, journal := first.journal }
    | .ok a =>
      let second := f a first.state
      { second with journal := first.journal ++ second.journal }

/-- Work that is cut short leaves nothing to what follows it. -/
theorem bind_of_error {w : Work σ α} {s : σ} {e : Interruption} (f : α → Work σ β)
    (h : (w s).result = .error e) :
    (w >>= f) s = { result := .error e, state := (w s).state, journal := (w s).journal } := by
  simp only [bind, h]

/-- What follows goes on from the state that was left, and adds to the journal. -/
theorem bind_of_ok {w : Work σ α} {s : σ} {a : α} (f : α → Work σ β) (h : (w s).result = .ok a) :
    (w >>= f) s =
      { f a (w s).state with journal := (w s).journal ++ (f a (w s).state).journal } := by
  simp only [bind, h]

/-- Adds to the journal. -/
def note (j : Journal) : Work σ Unit :=
  fun s => { result := .ok (), state := s, journal := j }

/-- Prints lines. -/
def print (lines : List String) : Work σ Unit :=
  note { lines := lines }

/-- Reports an event. -/
def report (e : Event) : Work σ Unit :=
  note { events := [e] }

/-- Asks something of the source. -/
def ask (r : Source.Request) : Work σ Unit :=
  note { requests := [r] }

/-- Cuts the work short. -/
def stop (e : Interruption) : Work σ α :=
  fun s => { result := .error e, state := s }

def fail (f : Failure) : Work σ α :=
  stop (.failure f)

/-- Goes on with a result, or is cut short. -/
def ofExcept : Except Interruption α → Work σ α
  | .ok a => pure a
  | .error e => stop e

/-- Goes on with a result, or fails. -/
def orFail (result : Except Failure α) : Work σ α :=
  ofExcept (result.mapError .failure)

/-- An operation of a store. -/
def perform (f : σ → Except Failure α × σ) : Work σ α :=
  fun s =>
    let (result, s) := f s
    orFail result s

/-- The same work, its failure seen from further out. -/
def within (context : String) (w : Work σ α) : Work σ α :=
  fun s =>
    let done := w s
    { done with result := done.result.mapError (·.within context) }

end Work

end Backfill
