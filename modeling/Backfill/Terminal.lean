import Backfill.Row
import Backfill.Sync.Report
import Backfill.Text.Paint

/-!
# Terminal output

The lines that the commands print, with or without colour.
-/

namespace Backfill

open Text

/-- How many nodes a label has, and how many of them carry the property. -/
structure Coverage where
  kind : Kind
  total : Int
  withProperty : Int
deriving DecidableEq, Repr

/-- The nodes without the property. -/
def Coverage.missing (c : Coverage) : Int :=
  c.total - c.withProperty

/-- One line of the status table. -/
structure StatusLine where
  sourceRows : Int
  coverage : Coverage
deriving DecidableEq, Repr

namespace Terminal

/-- Lines, each ended by a line break. -/
def unlines (lines : List String) : String :=
  String.join (lines.map (· ++ "\n"))

/-- The paint of a number of matches: one is as it should be. -/
def matchPaint (matched : Int) : Paint :=
  if matched = 0 then .yellow else if matched = 1 then .green else .red

/-- The line of one write. -/
def writeLine (colour : Bool) (row : Row) (matched : Int) : String :=
  "  " ++ row.key.text ++ " " ++ Paint.dimmed.apply colour row.stamp ++ " " ++
    (matchPaint matched).apply colour (int matched)

/-- A counter of a report, if it is to be shown. -/
def counterLine (colour : Bool) (title : String) (paint : Paint) (n : Nat) : String :=
  "  " ++ alignLeft 16 title ++ paint.apply colour (nat n)

/-- The summary of a run. Counters of what went amiss are shown only if they are not zero. -/
def reportLines (colour : Bool) (r : Sync.Report) : List String :=
  let counter := counterLine colour
  let nonzero (title : String) (paint : Paint) (n : Nat) : List String :=
    if n = 0 then [] else [counter title paint n]
  [counter "Rows read:" .cyan r.rowsRead, counter "Writes:" .cyan r.writes,
    counter "Nodes updated:" .green r.nodesUpdated] ++
  nonzero "No match:" .yellow r.missing ++
  nonzero "Duplicate keys:" .yellow r.duplicates ++
  nonzero "Failed:" .red r.skipped.length ++
  r.skipped.map (fun row => "    " ++ Paint.bold.apply colour row.key.text ++ " " ++
    Paint.dimmed.apply colour row.error) ++
  [""]

/-- The horizontal rule of the status table. -/
def rule : String :=
  String.ofList (List.replicate 62 '─')

def statusLine (colour : Bool) (l : StatusLine) : String :=
  let missing := l.coverage.missing
  let paint : Paint := if missing = 0 then .green else .yellow
  " ".intercalate
    [Paint.cyan.apply colour (alignLeft 10 l.coverage.kind.label),
      alignRight 12 (int l.sourceRows), alignRight 12 (int l.coverage.total),
      alignRight 12 (int l.coverage.withProperty),
      paint.apply colour (alignRight 12 (int missing))]

/-- The status table. -/
def statusLines (colour : Bool) (lines : List StatusLine) : List String :=
  let header := " ".intercalate (alignLeft 10 "Label" ::
    ["Source rows", "Graph nodes", "With date", "Missing"].map (alignRight 12))
  [Paint.bold.apply colour "Sync Status", rule, header, rule] ++
    lines.map (statusLine colour) ++ [rule]

end Terminal

end Backfill
