import ExperimentGroups.Command.Display
import ExperimentGroups.Console.Markup
import ExperimentGroups.Console.Table
import ExperimentGroups.Groups.Rendering

/-!
# Inspections

An inspection shows every test of a snapshot with its determined and its effective value, its
allocation, its description and its payload, below a head with the matrix version and above the
logging string. All texts go through the markup of the console before they are laid out.

## Main definitions

* `Inspection`: head, table and foot as texts with markup
* `Query.inspection`: the inspection of a snapshot
* `Drawing`, `Inspection.drawing`: what the console shows of it
-/

namespace ExperimentGroups

/-- **An inspection** with markup: the text above the table, the rows of the table, the text below
it. -/
structure Inspection where
  head : String
  rows : List (List String)
  foot : String
  deriving DecidableEq

/-- **What the console shows**: the lines above the table, those of the table with the cells of
each, and the lines below. -/
structure Drawing where
  head : List String
  rows : List (List String)
  foot : List String
  deriving DecidableEq

namespace Inspection

/-- The titles of the columns. -/
def titles : List String :=
  ["Test", "Raw", "Effective", "Allocation", "Description", "Payload"]

/-- A cell without the blanks at its ends. -/
def shownCell (cs : List Char) : String := String.ofList (Text.trim Text.isBlankOrSeparator cs)

/-- The lines of a head, which stands in a frame of its own width. -/
def headLines (t : Marked) : List Marked := Wrap.lines .fold (Wrap.measure t.chars) t

/-- What shows of a foot, which may be of any width. Its lines without characters are left out. -/
def shownFoot (lines : List Marked) : List String :=
  ((lines.map Marked.chars).filter (· ≠ [])).map Wrap.shown

/-- **What the console shows of an inspection.** The head is drawn before the table is read, and the
table before the foot; in the table the first broken markup decides, column after column. -/
def drawing (i : Inspection) : Except Markup.Failure Drawing := do
  let head ← Markup.marked i.head.toList
  Markup.judge (headLines head)
  let columns ← (Table.across "" i.rows).mapM fun cells =>
    cells.mapM fun cell => Markup.marked cell.toList
  Markup.judge (Table.rows columns).flatten.flatten
  let foot ← Markup.marked i.foot.toList
  Markup.judge (Wrap.freeLines foot)
  let width := Wrap.measure head.chars
  pure
    ⟨(headLines head).map fun line => Wrap.shown (line.drawn width),
      (Table.lines columns).map (·.map shownCell), shownFoot (Wrap.freeLines foot)⟩

end Inspection

namespace Query

/-- The row of a test. -/
def inspectionRow (s : Snapshot) (test : String) (bucket : Bucket) : Query (List String) := do
  let effective ← value test bucket.value
  let p ← payload s test
  write [bucket.value, effective]
  let text ← description s test
  pure
    [test, Text.integerText bucket.value, Text.integerText effective,
      ((s.allocations.get? test).map Allocation.id).getD "", text, String.ofList p.display]

/-- The rows of some tests that have a bucket. -/
def inspectionRows (s : Snapshot) : List String → Query (List (List String))
  | [] => pure []
  | test :: tests => do
    let row ← match s.buckets.get? test with
      | none => pure []
      | some bucket => do
        let row ← inspectionRow s test bucket
        pure [row]
    let rows ← inspectionRows s tests
    pure (row ++ rows)

/-- **The inspection of a snapshot.** -/
def inspection (s : Snapshot) : Query Inspection := do
  let shownVersion := if s.matrixVersion.isEmpty then "-" else s.matrixVersion
  let head :=
    "[bold cyan]proctor-groups[/bold cyan]\nMatrix version: [u]" ++ shownVersion ++ "[/u]"
  if s.buckets.isEmpty then pure ⟨head, [], "[dim]Snapshot has no buckets.[/dim]"⟩
  else do
    let rows ← inspectionRows s (sortNames s.buckets.keys)
    let logging ← loggingString s
    pure ⟨head, Inspection.titles :: rows, "[dim]Logging: " ++ logging ++ "[/dim]"⟩

end Query

end ExperimentGroups
