import Backfill.Domain.Characters
import Backfill.Domain.Joiner
import Backfill.Domain.Punycode
import Backfill.Text.Composed

/-!
# Domain names

A domain name consists of labels with dots between them. It is checked in composed form, after each
character has been replaced by what it stands for. A label in ASCII disguise is checked by what it
hides, which must need the disguise and be in composed form already. No label may begin with a mark,
joiners must be in place, and directions must not be mixed. Labels may be empty and of any length.
-/

namespace Backfill.Domain

/-- The sign of a label in disguise. -/
def disguise : List Char :=
  "xn--".toList

/-- The characters of a label, without disguise. -/
def revealed? (label : List Char) : Option (List Char) :=
  if disguise.isPrefixOf label then do
    let hidden ← Punycode.decode? (label.drop disguise.length)
    let foreign := hidden.filter fun c => c.toNat ≥ 0x80
    if !foreign.isEmpty && foreign.all standsForItself && Text.composed hidden = hidden then
      some hidden
    else none
  else some label

/-- Whether a label is in order by itself. -/
def isSound (label : List Char) : Bool :=
  !label.head?.any isMark && joinersFit [] label

/-- Whether labels do not mix directions. -/
def isStraight (labels : List (List Char)) : Bool :=
  let directions := labels.map (·.map directionOf)
  !directions.any (·.any Direction.isMixing) || directions.all Direction.isPure

/-- The name that a text stands for, if it is one. -/
def read? (text : List Char) : Option (List Char) := do
  let name := Text.composed (← text.mapM standsFor?).flatten
  if name.any isDenied then none
  let labels ← ((String.ofList name).splitOn ".").mapM fun label => revealed? label.toList
  if labels.all isSound && isStraight labels then return name else none

end Backfill.Domain
