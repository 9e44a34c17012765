import ExperimentGroups.Text.Digit

/-!
# Messages

What is reported while queries are answered: that an effective value differs from the determined
one, and that no source had the payload or the description that was asked for.

## Main definitions

* `Facet`: what can be asked of a bucket
* `Miss`: why a source has nothing
* `Message`: the messages
* `Miss.text`, `Message.text`: their wording
* `Miss.numbers`, `Message.numbers`: the integers in their wording
-/

namespace ExperimentGroups

/-- What can be asked of a bucket. -/
inductive Facet where
  | payload
  | description
  deriving DecidableEq

/-- The name of a facet. -/
def Facet.name : Facet → String
  | .payload => "payload"
  | .description => "description"

/-- **Why a source has nothing.** -/
inductive Miss where
  | absent (test : String)
  | overridden (test : String)
  | undefined (test : String)
  | undeclared (test : String) (value : Int)
  | noFallback
  | otherValue (fallback effective : Int)
  | lacking (facet : Facet)
  deriving DecidableEq

/-- The wording of a reason. -/
def Miss.text : Miss → String
  | .absent test => test ++ " is not in the snapshot"
  | .overridden test => test ++ " was overridden"
  | .undefined test => test ++ " has no definition"
  | .undeclared test value => test ++ " defines no bucket " ++ Text.integerText value
  | .noFallback => "no fallback bucket"
  | .otherValue fallback effective =>
    "fallback value " ++ Text.integerText fallback ++ " is not " ++ Text.integerText effective
  | .lacking facet => "no " ++ facet.name

/-- The integers in the wording of a reason. -/
def Miss.numbers : Miss → List Int
  | .undeclared _ value => [value]
  | .otherValue fallback effective => [fallback, effective]
  | _ => []

/-- **A message.** -/
inductive Message where
  | override (test : String) (determined effective : Int)
  | unresolved (facet : Facet) (test : String) (reasons : List Miss)
  deriving DecidableEq

/-- The wording of a message. -/
def Message.text : Message → String
  | .override test determined effective =>
    "override " ++ test ++ ": " ++ Text.integerText determined ++ " -> " ++
      Text.integerText effective
  | .unresolved facet test reasons =>
    "no " ++ facet.name ++ " for " ++ test ++ ": " ++ "; ".intercalate (reasons.map Miss.text)

/-- The integers in the wording of a message. -/
def Message.numbers : Message → List Int
  | .override _ determined effective => [determined, effective]
  | .unresolved _ _ reasons => reasons.flatMap Miss.numbers

end ExperimentGroups
