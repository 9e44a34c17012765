import ExperimentGroups.Dict
import ExperimentGroups.Text.Blank
import ExperimentGroups.Text.Integer
import ExperimentGroups.Text.Quoted

/-!
# Pins written as items

A pin is written `TEST=VALUE`, with blanks anywhere around the name and the value. The first equals
sign divides; the value is an integer in the digits of any script.

## Main definitions

* `Override.ItemError`, `Override.ItemError.message`: what can be wrong with an item
* `Override.readItem`, `Override.readItems`: one item, and all of them
-/

namespace ExperimentGroups

namespace Override

/-- What can be wrong with an item. -/
inductive ItemError where
  | malformed (item : String)
  | notInteger (test : String)
  deriving DecidableEq

/-- The wording of what is wrong, with the text in question in quotation marks. -/
def ItemError.message : ItemError → String
  | .malformed item => "expected TEST=VALUE, got " ++ String.ofList (Text.quote item.toList)
  | .notInteger test =>
    "bucket value for " ++ String.ofList (Text.quote test.toList) ++ " must be an integer"

theorem ItemError.message_malformed (item : String) :
    (malformed item).message =
      "expected TEST=VALUE, got " ++ String.ofList (Text.quote item.toList) := by
  unfold message
  with_reducible rfl

theorem ItemError.message_notInteger (test : String) :
    (notInteger test).message =
      "bucket value for " ++ String.ofList (Text.quote test.toList) ++ " must be an integer" := by
  unfold message
  with_reducible rfl

/-- **Reads one item.** -/
def readItem (item : String) : Except ItemError (String × Int) :=
  let cs := item.toList
  let name := Text.trim Text.isBlankOrSeparator (cs.takeWhile (· ≠ '='))
  match cs.dropWhile (· ≠ '='), name with
  | [], _ => .error (.malformed item)
  | _ :: _, [] => .error (.malformed item)
  | _ :: value, c :: name =>
    let test := String.ofList (c :: name)
    match Text.integer? value with
    | none => .error (.notInteger test)
    | some n => .ok (test, n)

/-- **Reads the items**; the first one that is wrong decides. Of pins for one test the last counts,
at the place of the first. -/
def readItems (items : List String) : Except ItemError (Dict Int) :=
  (items.mapM readItem).map Dict.ofList

end Override

end ExperimentGroups
