import ExperimentGroups.Console.Cluster

/-!
# Marked texts

A text for the console has marks, each with a style for some of the characters. Where the text is
divided, a mark is divided with it, and a part without characters is lost; where the text is left
whole, all marks stay. A mark whose style cannot be judged shows as late as the text is drawn.

## Main definitions

* `Mark`, `Marked`: marks and marked texts
* `Marked.divide`, `Marked.keep`, `Marked.rewrite`: parts of a text, its start, and other characters
  in place of its own
* `Marked.segments`: the parts between the ends of marks
* `Marked.drawn`: what shows of a line in a field
-/

namespace ExperimentGroups

/-- **A mark**: the places of its first character and behind its last one, and what keeps its style
from being judged, if anything does. -/
structure Mark where
  first : Nat
  stop : Nat
  fault : Option (List Char)
  deriving DecidableEq

/-- What is left of a mark between two places, counted from the first of them. -/
def Mark.within? (first stop : Nat) (m : Mark) : Option Mark :=
  let start := m.first - first
  let stop := min (m.stop - first) (stop - first)
  if start < stop then some { m with first := start, stop := stop } else none

/-- **A marked text.** -/
structure Marked where
  chars : List Char
  marks : List Mark
  deriving DecidableEq

namespace Marked

/-! ## Parts -/

/-- Parts of a text from a place on, with some characters lost between two parts. -/
def placed (t : Marked) (gap : Nat) : Nat → List (List Char) → List Marked
  | _, [] => []
  | place, part :: parts =>
    ⟨part, t.marks.filterMap (·.within? place (place + part.length))⟩ ::
      placed t gap (place + part.length + gap) parts

/-- **The parts of a text**, of which the characters are given. A text that is one part is left
whole. -/
def divide (t : Marked) (gap : Nat) (parts : List (List Char)) : List Marked :=
  if parts.length ≤ 1 then [t] else t.placed gap 0 parts

/-- The marks of a text that begin before a place, up to that place. -/
def marksBefore (place : Nat) (marks : List Mark) : List Mark :=
  (marks.filter (·.first < place)).map fun m => { m with stop := min m.stop place }

/-- **The text with other characters**; marks are only lost with the end of the text. -/
def rewrite (t : Marked) (cs : List Char) : Marked :=
  ⟨cs, if cs.length < t.chars.length then marksBefore cs.length t.marks else t.marks⟩

/-- The start of a text. -/
def keep (t : Marked) (length : Nat) : Marked := t.rewrite (t.chars.take length)

/-- The text with more blanks behind it, which have the marks of the last character. -/
def addBlanks (t : Marked) (blanks : Nat) : Marked :=
  let mark (m : Mark) : Mark :=
    if t.chars.length ≤ m.stop then { m with stop := m.stop + blanks } else m
  if blanks = 0 then t else ⟨t.chars ++ List.replicate blanks ' ', t.marks.map mark⟩

/-- The text with another one behind it. -/
def append (t u : Marked) : Marked :=
  let mark (m : Mark) : Mark :=
    { m with first := m.first + t.chars.length, stop := m.stop + t.chars.length }
  ⟨t.chars ++ u.chars, t.marks ++ u.marks.map mark⟩

/-- Texts one behind the other. -/
def join (ts : List Marked) : Marked := ts.foldr append ⟨[], []⟩

/-! ## Drawing -/

/-- What keeps the first of the styles that cannot be judged from it, if there is one. -/
def fault? (t : Marked) : Option (List Char) := t.marks.findSome? (·.fault)

/-- The parts of a text between certain places, of which the first character has the place
`place`. -/
def cut (isCut : Nat → Bool) (place : Nat) : List Char → List (List Char)
  | [] => []
  | c :: cs =>
    match cut isCut (place + 1) cs with
    | [] => [[c]]
    | part :: parts => if isCut (place + 1) then [c] :: part :: parts else (c :: part) :: parts

/-- **The parts of a text between the ends of its marks.** -/
def segments (t : Marked) : List (List Char) :=
  cut (fun place => t.marks.any fun m => m.first == place || m.stop == place) 0 t.chars

/-- The first segments that fit in a field. The segments are measured one by one. -/
def fitSegments : Nat → List (List Char) → List Char
  | _, [] => []
  | width, s :: ss =>
    let cells := Cell.count s
    if cells < width then s ++ fitSegments (width - cells) ss else Cluster.fit width s

/-- **What shows of a line in a field.** Its segments may take more cells than the line, and then it
loses its end. -/
def drawn (width : Nat) (t : Marked) : List Char :=
  if t.segments.foldl (fun n s => n + Cell.count s) 0 ≤ width then t.chars
  else fitSegments width t.segments

end Marked

end ExperimentGroups
