import ExperimentGroups.Json.Token
import ExperimentGroups.Text.Digit
import ExperimentGroups.Text.Split

/-!
# Numeric hosts

A host can be a number: of four bytes in decimal digits with points between them, or of eight groups
of hexadecimal digits with colons between them. In the long form one row of zero groups may be left
out, the last two groups may have the short form, and a zone may follow.

## Main definitions

* `Host.isShortNumber`, `Host.isLongNumber`: the two forms
* `Host.resemblesShortNumber`: what is taken for the short form and has to be it
-/

namespace ExperimentGroups

namespace Host

/-! ## The short form -/

/-- Whether a text is a byte in decimal digits, without zeros in front. -/
def isByte (cs : List Char) : Bool :=
  cs.all Text.isAsciiDigit && (cs.length == 1 || (cs.length ≤ 3 && cs.head?.any (· != '0'))) &&
    Text.ofDigits (cs.filterMap Text.asciiDigit?) < 256

/-- **Whether a text is four bytes.** -/
def isShortNumber (cs : List Char) : Bool :=
  let bytes := Text.split '.' cs
  bytes.length == 4 && bytes.all isByte

/-- **Whether a text is four rows of digits** with one character of any kind between two of them,
which may be a digit, too. -/
def resemblesShortNumber (cs : List Char) : Bool :=
  let rows := Text.split '.' (cs.map fun c => if Text.isAsciiDigit c then c else '.')
  let spare := rows.foldl (fun n row => n + (row.length - 1) / 2) 0
  rows.all (!·.isEmpty) && rows.length ≤ 4 && 4 ≤ rows.length + spare

/-! ## The long form -/

/-- Whether a text is a group of hexadecimal digits. -/
def isGroup (cs : List Char) : Bool :=
  cs != [] && cs.length ≤ 4 && cs.all fun c => (Json.hexDigit? c).isSome

/-- How many groups a text has, if all of it is groups; the short form may end it and counts as
two. -/
def countGroups? (mayEndShort : Bool) (cs : List Char) : Option Nat :=
  if cs = [] then some 0
  else
    let groups := Text.split ':' cs
    let last := groups.getLastD []
    if groups.dropLast.all isGroup then
      if isGroup last then some groups.length
      else if mayEndShort && isShortNumber last then some (groups.length + 1)
      else none
    else none

/-- A text up to the first two colons in a row, and what is after them. -/
def splitGap? : List Char → Option (List Char × List Char)
  | ':' :: ':' :: rest => some ([], rest)
  | c :: cs => (splitGap? cs).map fun p => (c :: p.1, p.2)
  | [] => none

/-- Whether a text is eight groups, or fewer with one gap. -/
def isGroups (cs : List Char) : Bool :=
  match splitGap? cs with
  | none => countGroups? true cs == some 8
  | some (before, after) =>
    match countGroups? false before, countGroups? true after with
    | some m, some n => m + n ≤ 7
    | _, _ => false

/-- **Whether a text is the long form**, without its brackets. A zone is not empty and has no
percent sign. -/
def isLongNumber (cs : List Char) : Bool :=
  isGroups (cs.takeWhile (· ≠ '%')) &&
    match cs.dropWhile (· ≠ '%') with
    | [] => true
    | _ :: zone => !zone.isEmpty && !zone.contains '%'

end Host

end ExperimentGroups
