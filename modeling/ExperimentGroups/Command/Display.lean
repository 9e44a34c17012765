import ExperimentGroups.Payload
import ExperimentGroups.Text.Quoted

/-!
# Display of payloads

The text of a payload for a reader's eye. A text shows as it is; lists of a typed kind stand in
round brackets, where a single item is followed by a comma; free-form values show their structure,
with texts in quotation marks.

## Main definitions

* `Json.display`: a free-form value
* `Payload.display`: a payload
-/

namespace ExperimentGroups

/-- Texts joined by a comma and a space. -/
def joinShown (parts : List (List Char)) : List Char := [',', ' '].intercalate parts

namespace Json

mutual

/-- **A free-form value.** -/
def display : Json → List Char
  | .null => ['N', 'o', 'n', 'e']
  | .bool true => ['T', 'r', 'u', 'e']
  | .bool false => ['F', 'a', 'l', 's', 'e']
  | .int n => Text.integerChars n
  | .double x => x.text .display
  | .text s => Text.quote s.toList
  | .array xs => '[' :: (joinShown (displayItems xs) ++ [']'])
  | .object ms => '{' :: (joinShown (displayMembers ms) ++ ['}'])

/-- The items of an array. -/
def displayItems : List Json → List (List Char)
  | [] => []
  | x :: xs => display x :: displayItems xs

/-- The members of an object, each as name, colon and value. -/
def displayMembers : List (String × Json) → List (List Char)
  | [] => []
  | (k, x) :: ms => (Text.quote k.toList ++ ':' :: ' ' :: display x) :: displayMembers ms

end

end Json

/-- A list in round brackets. -/
def displayTuple : List (List Char) → List Char
  | [] => ['(', ')']
  | [x] => '(' :: (x ++ [',', ')'])
  | xs => '(' :: (joinShown xs ++ [')'])

/-- **A payload**; the empty one shows nothing. -/
def Payload.display : Payload → List Char
  | .empty => []
  | .double x => x.text .display
  | .doubles xs => displayTuple (xs.map (·.text .display))
  | .long n => Text.integerChars n
  | .longs ns => displayTuple (ns.map Text.integerChars)
  | .text s => s.toList
  | .texts ss => displayTuple (ss.map fun s => Text.quote s.toList)
  | .map members => (Json.ofDict members).display

end ExperimentGroups
