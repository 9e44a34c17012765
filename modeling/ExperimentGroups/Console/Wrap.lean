import ExperimentGroups.Console.Marked
import ExperimentGroups.Text.Blank
import ExperimentGroups.Text.Split

/-!
# Lines within a width

A text for the console is laid out in a field of some cells. Tabs reach to the next of the stops,
which stand eight cells apart. A line is filled with words as long as they fit, blanks behind a word
not counted. A word that is wider than the field is cut at the edge and goes on in the next line if
the field folds its words, and loses its end otherwise.

## Main definitions

* `Wrap.measure`: the width that a text asks for
* `Wrap.Overflow`: what a field does with a word that is too wide
* `Wrap.words`, `Wrap.chop`, `Wrap.fill`: words, the parts of a wide word, and lines of words
* `Wrap.lines`, `Wrap.freeLines`: the lines of a text within a width, and within none
* `Wrap.shown`: a line without the blanks at its end
-/

namespace ExperimentGroups

namespace Wrap

/-- Whether a character ends a line where the width of a text is measured. -/
def isLineEnd (c : Char) : Bool :=
  let n := c.toNat
  (0x0A ≤ n && n ≤ 0x0D) || (0x1C ≤ n && n ≤ 0x1E) || n == 0x85 || n == 0x2028 || n == 0x2029

/-- **The width that a text asks for**, in cells: that of its widest line. -/
def measure (cs : List Char) : Nat :=
  ((Text.words isLineEnd cs).map Cell.count).foldl max 0

/-! ## Tabs -/

/-- The distance of tab stops. -/
def tabStop : Nat := 8

/-- The parts of a line, each up to the next tab. -/
def tabParts (cs : List Char) : List (List Char) :=
  let parts := Text.split '\t' cs
  parts.dropLast.map (· ++ ['\t']) ++ parts.getLast?.toList.filter (· ≠ [])

/-- The parts of a line behind some cells, with blanks up to the next stop in place of every tab. -/
def expandParts : Nat → List Marked → List Marked
  | _, [] => []
  | cells, part :: parts =>
    if part.chars.getLast? = some '\t' then
      let part := part.rewrite (part.chars.dropLast ++ [' '])
      let reached := cells + Cell.count part.chars
      let blanks := (tabStop - reached % tabStop) % tabStop
      part.addBlanks blanks :: expandParts (reached + blanks) parts
    else part :: expandParts (cells + Cell.count part.chars) parts

/-- A line with blanks up to the next stop in place of every tab. -/
def expandTabs (line : Marked) : Marked :=
  if '\t' ∈ line.chars then .join (expandParts 0 (line.placed 0 0 (tabParts line.chars)))
  else line

/-! ## Words -/

/-- Whether a character is a blank between words. -/
abbrev isBlank : Char → Bool := Text.isBlankOrSeparator

/-- The parts of a line between the places where a blank is followed by another character. -/
def runs : List Char → List (List Char)
  | [] => []
  | c :: cs =>
    match runs cs with
    | [] => [[c]]
    | run :: rest =>
      if isBlank c && !(run.head?.any isBlank) then [c] :: run :: rest else (c :: run) :: rest

/-- **The words of a line**, each with the blanks behind it, and the first also with those in front
of it. -/
def words (cs : List Char) : List (List Char) :=
  match runs cs with
  | first :: second :: rest =>
    if first.all isBlank then (first ++ second) :: rest else first :: second :: rest
  | parts => parts

/-- The parts that clusters make behind the present part, which takes some cells. -/
def chopFrom (width : Nat) : List Char → Nat → List Cluster → List (List Char)
  | part, _, [] => [part]
  | part, cells, k :: ks =>
    if cells + k.cells ≤ width then chopFrom width (part ++ k.chars) (cells + k.cells) ks
    else part :: chopFrom width k.chars k.cells ks

/-- **The parts of a word that is wider than the field**, each as wide as possible. -/
def chop (width : Nat) (word : List Char) : List (List Char) :=
  chopFrom width [] 0 (Cluster.ofText word)

/-! ## Lines -/

/-- **What a field does with a word that is too wide**: it goes on in the next line, or an ellipsis
stands for its end. -/
inductive Overflow where
  | fold
  | ellipsis
  deriving DecidableEq

/-- Characters in front of the first of some lines. -/
def attach (cs : List Char) : List (List Char) → List (List Char)
  | [] => [cs]
  | line :: rest => (cs ++ line) :: rest

/-- An empty line in front of some lines, unless nothing was in the line before them. -/
def breakBefore (isStart : Bool) (lines : List (List Char)) : List (List Char) :=
  if isStart then lines else [] :: lines

/-- **The lines of some words**, of which the first goes on with a line that takes some cells
already; at the start there is nothing in that line. -/
def fill (overflow : Overflow) (width : Nat) (isStart : Bool) (cells : Nat) :
    List (List Char) → List (List Char)
  | [] => [[]]
  | word :: rest =>
    let need := Cell.count (Text.trimEnd isBlank word)
    if cells + need ≤ width then
      attach word (fill overflow width false (cells + Cell.count word) rest)
    else if need ≤ width ∨ overflow = .ellipsis then
      breakBefore isStart (attach word (fill overflow width false (Cell.count word) rest))
    else
      let parts := chop width word
      let last := parts.getLast?.getD []
      breakBefore isStart <|
        parts.dropLast ++ attach last (fill overflow width false (Cell.count last) rest)

/-- A line without the blanks at its end, as far as it has more characters than the width. -/
def trimExcess (width : Nat) (line : Marked) : Marked :=
  let length := line.chars.length
  let blanks := length - (Text.trimEnd isBlank line.chars).length
  line.keep (length - min blanks (length - width))

/-- A line that is no wider than the field. -/
def truncate (overflow : Overflow) (width : Nat) (line : Marked) : Marked :=
  if Cell.count line.chars ≤ width then line
  else
    match overflow with
    | .fold => line.rewrite (Cluster.crop width line.chars)
    | .ellipsis => line.rewrite (Cluster.crop (width - 1) line.chars ++ ['…'])

/-- The lines of a line within a width. -/
def foldLine (overflow : Overflow) (width : Nat) (line : Marked) : List Marked :=
  let line := expandTabs line
  (line.divide 0 (fill overflow width true 0 (words line.chars))).map fun line =>
    truncate overflow width (trimExcess width line)

/-- **The lines of a text within a width.** -/
def lines (overflow : Overflow) (width : Nat) (t : Marked) : List Marked :=
  (t.divide 1 (Text.lines t.chars)).flatMap (foldLine overflow width)

/-- **The lines of a text within no width**; only tabs are laid out. -/
def freeLines (t : Marked) : List Marked := (t.divide 1 (Text.lines t.chars)).map expandTabs

/-- A line without the blanks at its end. -/
def shown (line : List Char) : String := String.ofList (Text.trimEnd isBlank line)

end Wrap

end ExperimentGroups
