/-!
# Plain text

A terminal takes some characters as commands: controls, and the sequences that begin with the escape
character. Plain text is what is left without them. Of the controls, those that only move on to the
right or to the next line are kept.
-/

namespace Backfill.Text

/-- Where in a sequence a terminal stands. -/
inductive Phase where
  /-- Outside of any sequence. -/
  | ground
  /-- After the escape character. -/
  | escape
  /-- Among the signs that come before the last character of a short sequence. -/
  | middle
  /-- In a sequence with numbers, which ends with a letter. -/
  | control
  /-- In a text for the terminal, which ends with a bell or the next sequence. -/
  | title
  /-- In a text for the terminal, which ends with the next sequence. -/
  | message
deriving DecidableEq, Repr

/-- Controls that are kept: tab, line feed, form feed and carriage return. -/
def isKept (c : Char) : Bool :=
  c = '\t' || c = '\n' || c = '\x0c' || c = '\r'

/-- The phase after the character that follows the escape character. -/
def Phase.ofLetter (c : Char) : Phase :=
  if c = '[' then control
  else if c = ']' then title
  else if c = 'P' || c = 'X' || c = '^' || c = '_' then message
  else if c < '0' then middle
  else ground

/-- The phase after a character, and whether the character is shown. -/
def Phase.next (p : Phase) (c : Char) : Phase × Bool :=
  if c = '\x1b' then (escape, false)
  else if c = '\x18' || c = '\x1a' then (ground, false)
  else
    match p with
    | ground => (ground, isKept c || ' ' ≤ c && c ≠ '\x7f')
    | title => (if c = '\x07' then ground else title, false)
    | message => (message, false)
    | escape | middle | control =>
      if isKept c then (ground, true)
      else if c < ' ' || '\x7f' ≤ c then (p, false)
      else
        match p with
        | escape => (Phase.ofLetter c, false)
        | middle => (if c < '0' then middle else ground, false)
        | _ => (if c < '@' then control else ground, false)

/-- What is shown of some characters, from a phase on. -/
def plainFrom (p : Phase) : List Char → List Char
  | [] => []
  | c :: cs =>
    let (next, shown) := p.next c
    if shown then c :: plainFrom next cs else plainFrom next cs

/-- A text as plain text. -/
def plain (s : String) : String :=
  String.ofList (plainFrom .ground s.toList)

end Backfill.Text
