import ExperimentGroups.Wire.Problem
import ExperimentGroups.Text.Blank
import ExperimentGroups.Text.Digit
import ExperimentGroups.Text.Grouped

/-!
# Doubles that are written in other ways

A double field also takes an integer, a boolean, and a text that spells a number. Which integers it
takes depends on where the value comes from.

## Main definitions

* `Wire.Origin`: where a value comes from
* `Wire.doubleText?`: the number that a text spells
* `Wire.double`, `Wire.share`: the double that a value stands for, and one between zero and one
-/

namespace ExperimentGroups

namespace Wire

/-- **Where a value comes from**: it is handed over as it is, or it stands in a document. -/
inductive Origin where
  | value
  | document
  deriving DecidableEq

/-! ## Texts -/

/-- The number that a text without blanks and underscores spells: a sign or none, then the name of
an infinity or of NaN in any case, or digits with a point and an exponent or without. -/
def plainDouble? (cs : List Char) : Option Double :=
  let (negative, unsigned) := Text.splitSign cs
  let name := unsigned.map Char.toLower
  if name = ['n', 'a', 'n'] then some .nan
  else if name = ['i', 'n', 'f'] ∨ name = ['i', 'n', 'f', 'i', 'n', 'i', 't', 'y'] then
    some (.infinite negative)
  else do
    let (whole, rest) := Text.spanDigits unsigned
    let (fraction, rest) := match rest with
      | '.' :: rest => Text.spanDigits rest
      | _ => ([], rest)
    guard (whole ++ fraction ≠ [])
    let e ← Text.exponent? rest
    pure (.ofDecimal negative (Text.ofDigits (whole ++ fraction)) (e - fraction.length))

/-- **The number that a text spells**: either plainly, with blanks at the ends, or without blanks
and with single underscores inside. -/
def doubleText? (s : String) : Option Double :=
  match plainDouble? (Text.trim Text.isBlank s.toList) with
  | some x => some x
  | none => plainDouble? (Text.dropUnderscores s.toList)

/-! ## Values -/

/-- The double nearest to an integer. An integer beyond the range of doubles is an infinity in a
document, and no number where a value is handed over. -/
def doubleOfInt (origin : Origin) (n : Int) : Except Fault Double :=
  match origin, Double.ofInt n with
  | .value, .infinite _ => .error .notNumber
  | _, x => .ok x

/-- **The double that a value stands for.** -/
def double (origin : Origin) : Json → Except Fault Double
  | .double x => .ok x
  | .int n => doubleOfInt origin n
  | .bool b => .ok (.ofInt (if b then 1 else 0))
  | .text s =>
    match doubleText? s with
    | some x => .ok x
    | none => .error .numberSyntax
  | _ => .error .notNumber

/-- The double between zero and one that a value stands for; what is not at most one is above. -/
def share (origin : Origin) (j : Json) : Except Fault Double :=
  match double origin j with
  | .error f => .error f
  | .ok x =>
    if !x.atMostOne then .error .aboveOne
    else if !x.atLeastZero then .error .belowZero
    else .ok x

end Wire

end ExperimentGroups
