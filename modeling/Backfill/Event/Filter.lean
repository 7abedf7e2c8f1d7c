import Backfill.Event
import Backfill.Text.Alphanumeric
import Backfill.Text.Blank
import Backfill.Text.Utf8

/-!
# Filters

A filter says which events are logged. It is a list of directives, each of which sets a level for
some events: those of the parts of the program whose names begin in a given way, and that carry
values of given names. Of the directives for an event the most specific one counts. A directive can
also be for what happens inside of a span; the program opens no spans, so it is never used.
-/

namespace Backfill

/-- A rule of a filter. -/
structure Directive where
  /-- The beginning of the names of the parts that the rule is for; for all, if there is none. -/
  target : Option String := none
  /-- Names of values that an event must carry. -/
  fields : List String := []
  /-- The rule is for the inside of a span, or asks for certain values, which only a span has. -/
  inSpan : Bool := false
  /-- The lightest level that is logged; none, if nothing is. -/
  least : Option Level
deriving DecidableEq, Repr

/-- The names of the values of an event. The message counts as one. -/
def Event.fieldNames (e : Event) : List String :=
  "message" :: e.fields.map (·.1)

namespace Directive

/-- Whether a rule is for an event. -/
def applies (d : Directive) (e : Event) : Bool :=
  !d.inSpan && d.target.all (e.target.startsWith ·) && d.fields.all (e.fieldNames.contains ·)

/-- Whether an event is heavy enough. -/
def admits (d : Directive) (e : Event) : Bool :=
  d.least.any (·.rank ≤ e.level.rank)

/-- Rules by how specific they are: by the length of the beginning, then by the number of names. -/
def precedes (d other : Directive) : Bool :=
  let length (d : Directive) : Nat := d.target.elim 0 fun target => target.length + 1
  if length d ≠ length other then length other < length d
  else if d.fields.length ≠ other.fields.length then other.fields.length < d.fields.length
  else decide (other.fields < d.fields)

/-! ### Reading -/

/-- The number that a text stands for: digits, with or without a plus sign. -/
def number? (text : String) : Option Nat :=
  let ds := match text.toList with
    | '+' :: ds => ds
    | ds => ds
  if !ds.isEmpty && ds.all Char.isDigit then some (Text.ofDigits ds) else none

/-- The level that a word or a number stands for; all of them from 5 on down to nothing at 0. No
event is lighter than the lightest level here, so the two lightest words mean the same. -/
def level? (text : String) : Option (Option Level) :=
  match number? text, text.toLower with
  | some 0, _ | none, "off" => some none
  | some 1, _ | none, "error" => some (some .error)
  | some 2, _ | none, "warn" => some (some .warn)
  | some 3, _ | none, "info" => some (some .info)
  | some 4, _ | none, "debug" => some (some .debug)
  | some 5, _ | none, "trace" => some (some .debug)
  | _, _ => none

/-- A character that a directive can begin with, other than a bracket. -/
def isStart (c : Char) : Bool :=
  Text.isAlphanumeric c || c = '-' || c = ':' || c = '_'

/-- What is being read of a directive, and from which byte on. -/
inductive Stage where
  | start
  | levelOrTarget
  | span (first : Nat)
  | field (first : Nat)
  | fieldsEnd
  | bracketEnd
  | level (first : Nat)
deriving DecidableEq, Repr

/-- A directive of which a part has been read. -/
structure Draft where
  stage : Stage := .start
  directive : Directive := { least := some .debug }

/-- A part of a text by its bytes. -/
def part? (text : List UInt8) (start : Nat) (stop : Nat) : Option String :=
  (Text.decodeUtf8 ((text.take stop).drop start)).toOption

/-- The name in a field, and whether a value is asked for beside it. -/
def field? (text : String) : Option (String × Bool) :=
  match text.splitOn "=" with
  | [""] => none
  | [name] => some (name, false)
  | name :: _ => some (name, true)
  | [] => none

/-- Reads one more character, which stands at the given byte. Parts are taken from the whole
text. -/
def Draft.next (text : List UInt8) (draft : Draft) (i : Nat) (c : Char) : Option Draft := do
  let d := draft.directive
  match draft.stage with
  | .start =>
    if c = '[' then return { draft with stage := .span (i + 1) }
    if isStart c then return { draft with stage := .levelOrTarget }
    none
  | .levelOrTarget =>
    if c = '=' then return ⟨.level (i + 1), { d with target := some (← part? text 0 i) }⟩
    if c = '[' then return ⟨.span (i + 1), { d with target := some (← part? text 0 i) }⟩
    return draft
  | .span first =>
    if c = ']' then return ⟨.bracketEnd, { d with inSpan := true }⟩
    if c = '\x7b' then
      let name ← part? text first i
      return ⟨.field (i + 1), { d with inSpan := !name.isEmpty }⟩
    return draft
  | .field first =>
    if c = '\x7d' then
      let (name, hasValue) ← field? (← part? text first i)
      return ⟨.fieldsEnd, { d with fields := [name], inSpan := d.inSpan || hasValue }⟩
    return draft
  | .fieldsEnd => if c = ']' then return { draft with stage := .bracketEnd } else none
  | .bracketEnd => if c = '=' then return { draft with stage := .level (i + 1) } else none
  | .level _ => return draft

/-- Reads characters, the first of which stands at the given byte. -/
def Draft.readAll (text : List UInt8) (draft : Draft) (i : Nat) : List Char → Option Draft
  | [] => some draft
  | c :: cs => do (← draft.next text i c).readAll text (i + c.utf8Size) cs

/-- Reads a directive: a level, the name of a part, or both with an equals sign between them, and
after the name what is asked for in brackets. Everything is admitted where no level is given. Where
the parts lie is found without the blanks around the directive, and they are then taken at these
places of the whole text; so blanks in front of it shift the parts. -/
def parse? (text : String) : Option Directive := do
  let bytes := text.toUTF8.toList
  let draft ← ({} : Draft).readAll bytes 0 (Text.trimmed text.toList)
  let d := draft.directive
  match draft.stage with
  | .levelOrTarget =>
    match level? text with
    | some least => return { d with least := least }
    | none => return { d with target := some text }
  | .level first =>
    let word ← part? bytes first bytes.length
    if word.isEmpty then return d
    return { d with least := ← level? word }
  | .bracketEnd => return d
  | _ => none

end Directive

/-- The rules of a filter, in order. -/
abbrev Filter := List Directive

namespace Filter

/-- The directive that counts for an event: the most specific, and of equal ones the last. -/
def directive? (f : Filter) (e : Event) : Option Directive :=
  (f.filter (·.applies e)).foldl (fun best d =>
    match best with
    | none => some d
    | some b => if b.precedes d then some b else some d) none

/-- Whether an event is logged. -/
def admits (f : Filter) (e : Event) : Bool :=
  (f.directive? e).any (·.admits e)

/-- The filter if nothing else is said: the program's own events, from a level on. -/
def upFrom (level : Level) : Filter :=
  [{ target := some "crategraph", least := some level }]

/-- Reads a filter: directives with commas between them. Without any, only errors are logged. -/
def parse? (text : String) : Option Filter := do
  let directives ← ((text.splitOn ",").filter (!·.isEmpty)).mapM Directive.parse?
  return if directives.isEmpty then [{ least := some .error }] else directives

end Filter

end Backfill
