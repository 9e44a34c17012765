import ExperimentGroups.Service.Host.Letter
import ExperimentGroups.Service.Host.Punycode
import ExperimentGroups.Text.Composition
import ExperimentGroups.Text.Direction
import ExperimentGroups.Text.Joining
import ExperimentGroups.Text.Mark

/-!
# Labels of host names

A host name is made of labels. A label is in composed form, has hyphens only inside, does not begin
with a mark, and holds letters only, of which some need certain neighbors. Where letters run to the
left, directions may not be mixed. On the wire a label is in ASCII; one that is not is written in
Punycode behind a prefix.

## Main definitions

* `Label.Fault`: what can be wrong with a label
* `Label.check`: whether a text is a label
* `Label.checkWritten`, `Label.write`: whether an ASCII text stands for a label, and the ASCII text
  of a label
-/

namespace ExperimentGroups

namespace Label

/-- **What can be wrong with a label**: its form, which joiners belong to, a character that is no
letter, one that may not stand where it does, or its directions. -/
inductive Fault where
  | malformed
  | noLetter
  | wrongPlace
  | mixedDirections
  deriving DecidableEq

/-! ## Letters -/

/-- The class of the marks that suppress the vowel of a letter. -/
def viramaClass : Nat := 9

/-- Whether a text ends, its last character first, with a letter whose vowel is suppressed. -/
def endsVirama (before : List Char) : Bool :=
  before.head?.any (Text.combiningClass · == viramaClass)

/-- Whether joined letters stand before and after a place, apart from marks. -/
def isJoined (before after : List Char) : Bool :=
  (before.dropWhile Text.isTransparent).head?.any Text.joinsNext &&
    (after.dropWhile Text.isTransparent).head?.any Text.joinsPrevious

/-- The ASCII-like digits of the Arabic script. -/
def isArabicDigit (c : Char) : Bool := '\u0660' ≤ c && c ≤ '\u0669'

/-- The digits of the Arabic script in its eastern form. -/
def isEasternDigit (c : Char) : Bool := '\u06F0' ≤ c && c ≤ '\u06F9'

/-- Whether a character joins or parts letters that belong together. -/
def isJoiner (c : Char) : Bool := c == '\u200C' || c == '\u200D'

/-- **Whether a character may stand between certain others**, of which the ones before it are given
with the last one first. -/
def isInPlace (before : List Char) (c : Char) (after : List Char) : Bool :=
  let others := before ++ after
  if c = '\u200C' then endsVirama before || isJoined before after
  else if c = '\u200D' then endsVirama before
  else if c = '·' then before.head? == some 'l' && after.head? == some 'l'
  else if c = '\u0375' then after.head?.any Host.isGreek
  else if c = '\u05F3' ∨ c = '\u05F4' then before.head?.any Host.isHebrew
  else if c = '・' then others.any fun d => d != '・' && Host.isKanaOrHan d
  else if isArabicDigit c then !others.any isEasternDigit
  else isEasternDigit c && !others.any isArabicDigit

/-- Whether a character may stand in a label at all, but not anywhere. -/
def needsPlace (c : Char) : Bool :=
  isJoiner c || c == '·' || c == '\u0375' || c == '\u05F3' || c == '\u05F4' ||
    c == '・' || isArabicDigit c || isEasternDigit c

/-- Whether all characters may stand where they do, after those before them, the last first. -/
def checkLetters (before : List Char) : List Char → Except Fault Unit
  | [] => .ok ()
  | c :: cs =>
    if Host.isLetter c then checkLetters (c :: before) cs
    else if !needsPlace c then .error .noLetter
    else if isInPlace before c cs then checkLetters (c :: before) cs
    else .error (if isJoiner c then .malformed else .wrongPlace)

/-! ## Directions -/

/-- Whether directions may follow each other, of which some run to the left or are numbers of a
script that does. The first one decides in which direction all run. -/
def agree (ds : List Text.Direction) : Bool :=
  let last := (ds.reverse.dropWhile (· == .mark)).head?
  match ds.head? with
  | some .leftward =>
    !ds.contains .rightward && !(ds.contains .europeanNumber && ds.contains .arabicNumber) &&
      last.any fun d => d == .leftward || d == .europeanNumber || d == .arabicNumber
  | some .rightward =>
    !ds.contains .leftward && !ds.contains .arabicNumber &&
      last.any fun d => d == .rightward || d == .europeanNumber
  | _ => false

/-- Whether all directions are known, and agree. -/
def hasDirection (label : List Char) : Bool :=
  match label.mapM Text.direction? with
  | none => false
  | some ds => (!ds.contains .leftward && !ds.contains .arabicNumber) || agree ds

/-! ## Labels -/

/-- The longest label that is looked at, and the longest one that is written. -/
def lengthLimit : Nat := 254

@[inherit_doc lengthLimit]
def writtenLimit : Nat := 63

/-- Whether a label has a good form, whatever its characters. -/
def isWellFormed (label : List Char) : Bool :=
  label != [] && label.length ≤ lengthLimit && Text.isComposed label &&
    (label.drop 2).take 2 != ['-', '-'] && label.head? != some '-' && label.getLast? != some '-' &&
    !label.head?.any Text.isMark

/-- **Whether a text is a label.** -/
def check (label : List Char) : Except Fault Unit :=
  if !isWellFormed label then .error .malformed
  else
    match checkLetters [] label with
    | .error fault => .error fault
    | .ok () => if hasDirection label then .ok () else .error .mixedDirections

/-- What stands in front of a label in Punycode. -/
def wirePrefix : List Char := ['x', 'n', '-', '-']

/-- **Whether an ASCII text in lower case stands for a label.** -/
def checkWritten (text : List Char) : Except Fault Unit :=
  if text.take 4 = wirePrefix then
    let digits := text.drop 4
    if digits = [] ∨ digits.getLast? = some '-' then .error .malformed
    else
      match Punycode.decode? digits with
      | none => .error .malformed
      | some label => check label
  else check text

/-- **The ASCII text of a label** in lower case. -/
def write (label : List Char) : Except Fault (List Char) := do
  let isAscii := label.all (·.toNat < 128)
  let text := if isAscii then label else wirePrefix ++ Punycode.encode label
  if isAscii then checkWritten label else check label
  if text.length ≤ writtenLimit then .ok text else .error .malformed

end Label

end ExperimentGroups
