/-!
# Classes of code points by their turns

A class of code points is written down by its turns: the code points at which it begins and those
right behind its runs, in order. Code point zero is outside, so a code point is inside where an odd
number of turns lies at or below it.

## Main definitions

* `Text.isBetweenTurns`: whether a code point belongs to the class
-/

namespace ExperimentGroups

namespace Text

/-- **Whether a code point belongs to a class** that is given by its turns. -/
def isBetweenTurns (turns : List Nat) (n : Nat) : Bool :=
  (turns.takeWhile (· ≤ n)).length % 2 == 1

end Text

end ExperimentGroups
