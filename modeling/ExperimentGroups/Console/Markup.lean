import ExperimentGroups.Console.Emoji
import ExperimentGroups.Console.Literal
import ExperimentGroups.Console.Marked
import ExperimentGroups.Console.Style
import ExperimentGroups.Text.Word

/-!
# Markup of the console

A text for the console may hold tags in square brackets. A tag begins with a lower-case letter or
one of `#`, `/` and `@`, and has no opening bracket inside; `[/name]` closes the last open tag of
that name and `[/]` the last open tag. Names are compared by their normal forms as styles. A
backslash in front makes a tag plain text. The tags do not show, nor do the characters that move the
cursor or ring the bell; between tags, the codes of emoji show as emoji. A tag leaves a mark on what
stands between it and its end, which is the end of the text for a tag that stays open.

A tag that closes nothing is an error, and so is the end of an action whose arguments are no
literals. A style that cannot be judged is an error in a name at once, and in what stands behind the
equals sign when the marked text is drawn.

## Main definitions

* `Markup.Piece`, `Markup.pieces`: the tags of a text and what stands between them
* `Markup.Failure`: why a markup is broken
* `Markup.marked`: what shows, with its marks
* `Markup.judge`: whether lines can be drawn
-/

namespace ExperimentGroups

namespace Markup

/-- **A piece**: plain characters, or the inside of a tag. -/
inductive Piece where
  | plain (cs : List Char)
  | tag (cs : List Char)
  deriving DecidableEq

/-! ## Pieces -/

/-- Whether a character can begin a tag. -/
def beginsTag (c : Char) : Bool :=
  ('a' ≤ c && c ≤ 'z') || c == '#' || c == '/' || c == '@'

/-- The tag at the start of a text, which may have backslashes in front: their number, the inside of
the tag, and the rest. -/
def tag? (cs : List Char) : Option (Nat × List Char × List Char) :=
  match cs.dropWhile (· == '\\') with
  | '[' :: c :: rest =>
    let isInside (c : Char) : Bool := c != '[' && c != ']'
    match rest.dropWhile isInside with
    | ']' :: after =>
      if beginsTag c then
        some ((cs.takeWhile (· == '\\')).length, c :: rest.takeWhile isInside, after)
      else none
    | _ => none
  | _ => none

theorem length_tag?_lt {cs inside after : List Char} {n : Nat}
    (h : tag? cs = some (n, inside, after)) : after.length < cs.length := by
  unfold tag? at h
  have hlen : (cs.dropWhile (· == '\\')).length ≤ cs.length :=
    (List.dropWhile_suffix _).length_le
  split at h
  · next c rest he =>
    rw [he] at hlen
    simp only [List.length_cons] at hlen
    have hrest : (rest.dropWhile fun c => c != '[' && c != ']').length ≤ rest.length :=
      (List.dropWhile_suffix _).length_le
    dsimp only at h
    split at h
    · next after' hd =>
      rw [hd] at hrest
      simp only [List.length_cons] at hrest
      split at h
      · cases h
        omega
      · cases h
    · cases h
  · cases h

/-- Plain characters as a piece, if there are any; they come last first. -/
def plainPiece (reversed : List Char) : List Piece :=
  if reversed = [] then [] else [.plain reversed.reverse]

/-- The pieces of a tag behind some backslashes: half of them show, and an odd one makes the tag
plain text. -/
def tagPieces (backslashes : Nat) (inside : List Char) : List Piece :=
  plainPiece (List.replicate (backslashes / 2) '\\') ++
    [if backslashes % 2 = 1 then .plain ('[' :: (inside ++ [']'])) else .tag inside]

/-- The pieces of a text behind some plain characters, the last first. -/
def piecesFrom (reversed : List Char) (cs : List Char) : List Piece :=
  match cs with
  | [] => plainPiece reversed
  | c :: cs =>
    match h : tag? (c :: cs) with
    | some (n, inside, after) =>
      have : after.length < (c :: cs).length := length_tag?_lt h
      plainPiece reversed ++ tagPieces n inside ++ piecesFrom [] after
    | none => piecesFrom (c :: reversed) cs
termination_by cs.length
decreasing_by
  · assumption
  · exact Nat.lt_succ_self _

/-- **The pieces of a text**, in order. -/
def pieces (cs : List Char) : List Piece := piecesFrom [] cs

/-! ## Tags -/

/-- **Why a markup is broken**: a tag closes nothing, the arguments of an action are no literals, or
a color in a tag has a component that is empty or too long. -/
inductive Failure where
  | unmatched
  | badAction
  | badComponent (component : List Char)
  deriving DecidableEq

/-- An open tag: the normal form of its name, what stands behind the equals sign if there is one,
and how many characters show before it. -/
structure Tag where
  name : List Char
  parameters : Option (List Char)
  place : Nat
  deriving DecidableEq

/-- The name of a tag, up to the first equals sign, and what stands behind that. -/
def splitName (inside : List Char) : List Char × Option (List Char) :=
  match inside.dropWhile (· ≠ '=') with
  | [] => (inside, none)
  | _ :: parameters => (inside.takeWhile (· ≠ '='), some parameters)

/-- Whether a character can belong to the name of an action. -/
def isActionChar (c : Char) : Bool := Text.isWordChar c || c == '.'

/-- The arguments in the parameters of an action, as a literal. An action may be a name alone, a
name with arguments in round brackets, or a literal. -/
def arguments (parameters : List Char) : List Char :=
  let rest := parameters.dropWhile isActionChar
  if rest = [] then ['(', ')']
  else if rest.head? = some '(' ∧ rest.getLast? = some ')' ∧ '\n' ∉ rest then rest
  else parameters

/-- Whether the end of a tag is without fault: the arguments of an action have to be literals. -/
def Tag.closes (t : Tag) : Bool :=
  match t.name, t.parameters with
  | '@' :: _, some (c :: cs) =>
    Literal.isLiteral (arguments (Text.trim Text.isBlankOrSeparator (c :: cs)))
  | _, _ => true

/-- The mark that a tag leaves if its end is at a place. An action has no style. -/
def Tag.mark (t : Tag) (stop : Nat) : Mark :=
  let fault := match t.name, t.parameters with
    | '@' :: _, _ => none
    | _, none => none
    | name, some parameters => Style.fault? (name ++ ' ' :: parameters)
  ⟨t.place, stop, fault⟩

/-- The tags that stay open where the last one of a name is closed. -/
def closeNamed? (name : List Char) : List Tag → Option (Tag × List Tag)
  | [] => none
  | t :: ts =>
    if t.name = name then some (t, ts) else (closeNamed? name ts).map fun p => (p.1, t :: p.2)

/-- The normal form of the name of a tag. -/
def normalName (name : List Char) : Except Failure (List Char) :=
  (Style.normal name).mapError .badComponent

/-- The tag that a closing tag closes, by its name or as the last one, and the tags that stay
open. -/
def close (opened : List Tag) (name : List Char) : Except Failure (Tag × List Tag) :=
  match Text.trim Text.isBlankOrSeparator name, opened with
  | [], [] => .error .unmatched
  | [], t :: ts => .ok (t, ts)
  | name, opened => do
    let n ← normalName name
    match closeNamed? n opened with
    | some p => .ok p
    | none => .error .unmatched

/-! ## What shows -/

/-- Plain characters without the backslashes right in front of brackets. -/
def unescape : List Char → List Char
  | '\\' :: '[' :: cs => '[' :: unescape cs
  | c :: cs => c :: unescape cs
  | [] => []

/-- Whether a character does not show: bell, backspace, vertical tab, form feed and carriage
return. -/
def isHidden (c : Char) : Bool :=
  c == '\x07' || c == '\x08' || c == '\x0b' || c == '\x0c' || c == '\r'

/-- **The course of reading a markup**: what shows so far, the open tags and the marks of those that
are closed, the last first. -/
structure Course where
  text : List Char
  opened : List Tag
  marks : List Mark

/-- The course after one more tag. -/
def Course.tag (s : Course) (inside : List Char) : Except Failure Course :=
  match splitName inside with
  | ('/' :: name, _) => do
    let (t, opened) ← close s.opened name
    if t.closes then
      .ok { s with opened := opened, marks := t.mark s.text.length :: s.marks }
    else .error .badAction
  | (name, parameters) =>
    (normalName name).map fun n => { s with opened := ⟨n, parameters, s.text.length⟩ :: s.opened }

/-- The course after one more piece. -/
def Course.piece (s : Course) : Piece → Except Failure Course
  | .plain cs =>
    .ok { s with text := s.text ++ (Emoji.replace (unescape cs)).filter (!isHidden ·) }
  | .tag inside => s.tag inside

/-- The marked text at the end of the course. Marks that begin at one place are in the order of
their ends, the last first. -/
def Course.marked (s : Course) : Marked :=
  let left := s.opened.reverse.map (·.mark s.text.length)
  ⟨s.text, (left ++ s.marks).mergeSort fun m n => m.first ≤ n.first⟩

/-- **What shows of a text, with its marks**, unless its markup is broken. -/
def marked (cs : List Char) : Except Failure Marked :=
  ((pieces cs).foldlM Course.piece ⟨[], [], []⟩).map Course.marked

/-- **Whether lines can be drawn**: the styles of all their marks have to be judged. -/
def judge (lines : List Marked) : Except Failure Unit :=
  match lines.findSome? Marked.fault? with
  | some component => .error (.badComponent component)
  | none => .ok ()

end Markup

end ExperimentGroups
