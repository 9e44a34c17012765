/-!
# Underscores within numbers

The digits of a number may be grouped by single underscores. They are taken off together, or not at
all if one of them stands at an end of the text or beside another.

## Main definitions

* `Text.dropUnderscores`: a text without its underscores
-/

namespace ExperimentGroups

namespace Text

/-- Whether some underscores follow one another. -/
def hasDoubleUnderscore : List Char → Bool
  | '_' :: '_' :: _ => true
  | _ :: cs => hasDoubleUnderscore cs
  | [] => false

/-- **A text without its underscores**; misplaced ones keep them all in it. -/
def dropUnderscores (cs : List Char) : List Char :=
  if cs.head? = some '_' ∨ cs.getLast? = some '_' ∨ hasDoubleUnderscore cs then cs
  else cs.filter (· ≠ '_')

end Text

end ExperimentGroups
