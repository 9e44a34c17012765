import ExperimentGroups.Wire.Problem
import ExperimentGroups.Text.Blank
import ExperimentGroups.Text.Digit
import ExperimentGroups.Text.Grouped

/-!
# Integers that are written in other ways

An integer field also takes a boolean, a double without a fraction, and a text that spells an
integer. A text is first read as a plain numeral. Only where it is none is it tidied: blanks, a
plus, zeros in front, a fraction of zeros and underscores are taken off, and what is left has to be
a plain numeral. A minus between the zeros in front and the digits is the sign of the numeral.

## Main definitions

* `Wire.plainInteger`: plain numerals
* `Wire.tidied?`: what is left of a text
* `Wire.integerText`, `Wire.integer`: the integer that a text spells, and that a value stands for
-/

namespace ExperimentGroups

namespace Wire

/-- Doubles from this magnitude on are too large for an integer field. -/
def integerBound : Nat := Nat.pow 2 63

/-! ## Plain numerals -/

/-- **The integer that a plain numeral spells**: a minus or none, and a zero alone or digits that do
not begin with one. Too many digits are too large, whatever follows them. -/
def plainInteger (cs : List Char) : Except Fault Int :=
  let (negative, unsigned) := match cs with
    | '-' :: rest => (true, rest)
    | _ => (false, cs)
  match Text.spanDigits unsigned with
  | ([], _) => .error .integerSyntax
  | (0 :: ds, rest) => if ds = [] ∧ rest = [] then .ok 0 else .error .integerSyntax
  | (ds, rest) =>
    if Text.digitLimit < ds.length then .error .integerTooLarge
    else if rest = [] then
      let n : Nat := Text.ofDigits ds
      .ok (if negative then -n else n)
    else .error .integerSyntax

/-! ## Tidying -/

/-- What follows zeros and underscores, of which `last` was the last: digits, a minus with digits,
or a point, in front of which the last one is kept. Without anything after them the last one is
left. -/
def afterZeros? (last : Char) : List Char → Option (List Char)
  | [] => some [last]
  | c :: cs =>
    if c = '0' ∨ c = '_' then afterZeros? c cs
    else if c = '-' ∨ ('1' ≤ c ∧ c ≤ '9') then some (c :: cs)
    else if c = '.' then some (last :: c :: cs)
    else none

/-- A text that begins with a digit, without needless zeros in front. -/
def dropZeros? : List Char → Option (List Char)
  | [] => none
  | c :: cs =>
    if c = '0' then afterZeros? c cs
    else if '1' ≤ c ∧ c ≤ '9' then some (c :: cs)
    else none

/-- Whether a text is nothing, or a point and one or more zeros. -/
def isZeroFraction : List Char → Bool
  | [] => true
  | c :: zs => c == '.' && !zs.isEmpty && zs.all (· == '0')

/-- A text without the fraction of zeros at its end. -/
def dropZeroFraction (cs : List Char) : List Char :=
  if isZeroFraction (cs.dropWhile (· ≠ '.')) then cs.takeWhile (· ≠ '.') else cs

/-- What is left of a text without a sign. -/
def tidiedUnsigned? (cs : List Char) : Option (List Char) :=
  (dropZeros? cs).map fun cs => Text.dropUnderscores (dropZeroFraction cs)

/-- **What is left of a text** after it was tidied; a minus in front stays. -/
def tidied? (cs : List Char) : Option (List Char) :=
  match Text.trim Text.isBlank cs with
  | '+' :: rest => tidiedUnsigned? rest
  | '-' :: rest => (tidiedUnsigned? rest).map ('-' :: ·)
  | rest => tidiedUnsigned? rest

/-- **The integer that a text spells.** That a numeral is too long is only said of a plain one. -/
def integerText (s : String) : Except Fault Int :=
  match plainInteger s.toList with
  | .error .integerSyntax =>
    match (tidied? s.toList).map plainInteger with
    | some (.ok n) => .ok n
    | _ => .error .integerSyntax
  | r => r

/-! ## Values -/

/-- The integer of a double that has no fraction and is not too large. -/
def integerOfDouble (x : Double) : Except Fault Int :=
  if x.isFinite then
    match x.toInt? with
    | none => .error .fractional
    | some n => if n.natAbs < integerBound then .ok n else .error .integerTooLarge
  else .error .notFinite

/-- **The integer that a value stands for.** -/
def integer : Json → Except Fault Int
  | .int n => .ok n
  | .bool b => .ok (if b then 1 else 0)
  | .double x => integerOfDouble x
  | .text s => integerText s
  | _ => .error .notInteger

end Wire

end ExperimentGroups
