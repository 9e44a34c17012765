import ExperimentGroups.Text.Blank
import ExperimentGroups.Text.Digit

/-!
# Integers as people write them

An integer in the digits of any script, with blanks around it and underscores between digits.

## Main definitions

* `Text.integer?`: the integer that a text spells
-/

namespace ExperimentGroups

namespace Text

/-- **The integer that a text spells**: blanks at the ends, a sign or none, and decimal digits of
any script with single underscores between them. -/
def integer? (cs : List Char) : Option Int :=
  let (negative, unsigned) := splitSign (trim isBlankOrSeparator cs)
  match groupedDigits? scriptDigit? unsigned with
  | none => none
  | some ds =>
    if digitLimit < ds.length then none
    else
      let n : Nat := ofDigits ds
      some (if negative then -n else n)

end Text

end ExperimentGroups
