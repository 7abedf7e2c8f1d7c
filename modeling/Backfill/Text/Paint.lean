/-!
# Painted text

A terminal is told to change its colour or weight by a sequence of the escape character, `[`, a
number and `m`; the number 0 resets it. A painted text stands between its opening sequence and a
reset. A reset inside the text would end the paint early, so the opening sequence is repeated after
each of them.
-/

namespace Backfill.Text

inductive Paint where
  | bold
  | dimmed
  | underlined
  | red
  | green
  | yellow
  | cyan
deriving DecidableEq, Repr

namespace Paint

def code : Paint → List Char
  | bold => ['1']
  | dimmed => ['2']
  | underlined => ['4']
  | red => ['3', '1']
  | green => ['3', '2']
  | yellow => ['3', '3']
  | cyan => ['3', '6']

/-- The sequence that sets a code. -/
def sequence (code : List Char) : List Char :=
  '\x1b' :: '[' :: code ++ ['m']

def reset : List Char :=
  ['\x1b', '[', '0', 'm']

/-- A text with the given sequence repeated after each reset in it. -/
def renew (opening : List Char) : List Char → List Char
  | '\x1b' :: '[' :: '0' :: 'm' :: rest => reset ++ opening ++ renew opening rest
  | c :: rest => c :: renew opening rest
  | [] => []

/-- A text in the given paint, if colour is wanted at all. -/
def apply (p : Paint) (colour : Bool) (s : String) : String :=
  if colour then
    let opening := sequence p.code
    String.ofList (opening ++ renew opening s.toList ++ reset)
  else s

/-- A text in several paints at once. Sequences inside the text are left as they are. -/
def applyAll (ps : List Paint) (s : String) : String :=
  String.ofList (ps.flatMap (sequence ·.code) ++ s.toList ++ reset)

end Paint

/-- What follows the sequence that a text begins with, if it does. -/
def afterSequence? : List Char → Option (List Char)
  | '\x1b' :: '[' :: digit :: rest =>
    if digit.isDigit then
      match rest.dropWhile Char.isDigit with
      | 'm' :: rest => some rest
      | _ => none
    else none
  | _ => none

theorem length_of_afterSequence? {cs rest : List Char} (h : afterSequence? cs = some rest) :
    rest.length < cs.length := by
  unfold afterSequence? at h
  split at h
  · next digit tail =>
    split at h
    · split at h
      · next after heq =>
        cases h
        have := (List.dropWhile_sublist (l := tail) Char.isDigit).length_le
        rw [heq] at this
        simp only [List.length_cons] at this ⊢
        omega
      · cases h
    · cases h
  · cases h

/-- A text without the sequences that change colour or weight, taken out in one pass. -/
def unpainted (cs : List Char) : List Char :=
  match h : afterSequence? cs with
  | some rest =>
    have := length_of_afterSequence? h
    unpainted rest
  | none =>
    match cs with
    | [] => []
    | c :: cs => c :: unpainted cs
termination_by cs.length

end Backfill.Text
