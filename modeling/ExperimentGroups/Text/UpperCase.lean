/-!
# Upper case

A text in upper case, so far as its capital letters belong to ASCII. Some letters outside ASCII have
capital forms there: the long s, the dotless i, the sharp s and ligatures, which become several
letters. All other characters stay as they are.

## Main definitions

* `Text.capital?`: the capital form of a letter outside ASCII
* `Text.upper`: a text in upper case
-/

namespace ExperimentGroups

namespace Text

/-- The capital form of a letter outside ASCII, where that is in ASCII. -/
def capital? (c : Char) : Option (List Char) :=
  match c with
  | 'ı' => some ['I']
  | 'ſ' => some ['S']
  | 'ß' => some ['S', 'S']
  | 'ﬀ' => some ['F', 'F']
  | 'ﬁ' => some ['F', 'I']
  | 'ﬂ' => some ['F', 'L']
  | 'ﬃ' => some ['F', 'F', 'I']
  | 'ﬄ' => some ['F', 'F', 'L']
  | 'ﬅ' => some ['S', 'T']
  | 'ﬆ' => some ['S', 'T']
  | _ => none

/-- A character in upper case. -/
def upperChar (c : Char) : List Char := (capital? c).getD [c.toUpper]

/-- **A text in upper case**, as far as ASCII goes. -/
def upper (cs : List Char) : List Char := cs.flatMap upperChar

end Text

end ExperimentGroups
