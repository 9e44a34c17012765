/-!
# Spacing of literals

Blanks may stand between the tokens of a literal. A comment goes on to the end of its line, and a
backslash at the end of a line joins it to the next one, which has to exist. Within brackets, a
literal may go on over several lines.

Outside of brackets a literal is one line. Lines in front of it and behind it only hold blanks and
comments. The line itself is not indented; a form feed begins the indentation anew, but blanks in
front of a backslash that joins lines always count.

## Main definitions

* `Literal.unifyLines`: a text in which each line ends with a line feed
* `Literal.skip`: what follows blanks and comments
* `Literal.afterLines?`: what follows lines that only hold blanks and comments
-/

namespace ExperimentGroups

namespace Literal

/-- A text in which each line ends with a line feed. -/
def unifyLines : List Char → List Char
  | '\r' :: '\n' :: cs => '\n' :: unifyLines cs
  | '\r' :: cs => '\n' :: unifyLines cs
  | c :: cs => c :: unifyLines cs
  | [] => []

/-! ## Within a line -/

/-- Whether a character may stand between tokens; a line may only end within brackets. -/
def isSpace (nested : Bool) (c : Char) : Bool :=
  c == ' ' || c == '\t' || c == '\x0c' || (nested && c == '\n')

/-- A text, perhaps within a comment, without blanks and comments in front. -/
def skipFrom (nested : Bool) : Bool → List Char → List Char
  | _, [] => []
  | true, c :: cs =>
    if c = '\n' then if nested then skipFrom nested false cs else c :: cs
    else skipFrom nested true cs
  | false, '\\' :: '\n' :: c :: cs => skipFrom nested false (c :: cs)
  | false, c :: cs =>
    if c = '#' then skipFrom nested true cs
    else if isSpace nested c then skipFrom nested false cs
    else c :: cs

/-- A text without blanks and comments in front. -/
def skip (nested : Bool) (cs : List Char) : List Char := skipFrom nested false cs

/-! ## Between lines -/

/-- What follows lines without content, from within the blanks or the comment in front of a line:
`joined` tells whether blanks stand in front of a backslash, and `indented` whether blanks stand in
front of the present place. -/
def afterLinesFrom? (comment joined indented : Bool) : List Char → Option (List Char)
  | [] => if comment || !(joined || indented) then some [] else none
  | '\\' :: '\n' :: c :: cs =>
    if comment then afterLinesFrom? false false false (c :: cs)
    else afterLinesFrom? false (joined || indented) indented (c :: cs)
  | c :: cs =>
    if c = '\n' then afterLinesFrom? false false false cs
    else if comment then afterLinesFrom? true joined indented cs
    else if c = '#' then afterLinesFrom? true joined indented cs
    else if c = ' ' ∨ c = '\t' then afterLinesFrom? false joined true cs
    else if c = '\x0c' then afterLinesFrom? false joined false cs
    else if joined || indented then none
    else some (c :: cs)

/-- **What follows lines that only hold blanks and comments**, unless it is indented. -/
def afterLines? (cs : List Char) : Option (List Char) := afterLinesFrom? false false false cs

end Literal

end ExperimentGroups
