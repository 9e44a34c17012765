import ExperimentGroups.Json.Basic

/-!
# Problems of a value

What is wrong with a JSON value that should describe something, and where. All problems of a value
are reported, in the order of the description: the fields of a record as they are declared, the
entries of a dictionary and the items of a list as they come. A problem shows the part of the value
that is wrong, and for a missing field the record that lacks it.

## Main definitions

* `Wire.Step`, `Wire.Problem`: a place is a path of steps into the value
* `Wire.Fault`: what can be wrong
* `Wire.Fault.code`, `Wire.Fault.message?`: the wording
* `Wire.Checked`: a result or the problems
* `Wire.follow?`: the value at a place
-/

namespace ExperimentGroups

namespace Wire

/-- A step into a value: to a member of an object, or to an item of an array. -/
inductive Step where
  | member (name : String)
  | item (index : Nat)
  deriving DecidableEq

/-- **What can be wrong with a value.** -/
inductive Fault where
  | missing
  | notRecord
  | notDict
  | notList
  | notTuple
  | notText
  | textTooShort
  | textTooLong
  | notAChoice
  | notInteger
  | integerSyntax
  | integerTooLarge
  | fractional
  | notFinite
  | notNumber
  | numberSyntax
  | aboveOne
  | belowZero
  | severalValues (slots : List String)
  | notJson
  deriving DecidableEq

/-- **A fault at a place**, with the part of the value that it shows. -/
structure Problem where
  path : List Step
  fault : Fault
  input : Json
  deriving DecidableEq

/-- The code of a fault; what should be a record is named differently within a request body. -/
def Fault.code (inBody : Bool) : Fault → String
  | .missing => "missing"
  | .notRecord => if inBody then "model_attributes_type" else "model_type"
  | .notDict => "dict_type"
  | .notList => "list_type"
  | .notTuple => "tuple_type"
  | .notText => "string_type"
  | .textTooShort => "string_too_short"
  | .textTooLong => "string_too_long"
  | .notAChoice => "literal_error"
  | .notInteger => "int_type"
  | .integerSyntax => "int_parsing"
  | .integerTooLarge => "int_parsing_size"
  | .fractional => "int_from_float"
  | .notFinite => "finite_number"
  | .notNumber => "float_type"
  | .numberSyntax => "float_parsing"
  | .aboveOne => "less_than_equal"
  | .belowZero => "greater_than_equal"
  | .severalValues _ => "value_error"
  | .notJson => "json_invalid"

/-- The message of a fault, where the code does not say it all. -/
def Fault.message? : Fault → Option String
  | .severalValues slots =>
    some ("Value error, payload must have at most one value, got " ++ ", ".intercalate slots)
  | _ => none

/-- The same problem of a part, seen from the whole. -/
def Problem.under (s : Step) (p : Problem) : Problem := { p with path := s :: p.path }

/-! ## Checked results -/

/-- A result or the problems that prevent it. -/
abbrev Checked (α : Type) := Except (List Problem) α

/-- The problem at a value itself. -/
def fail {α : Type} (f : Fault) (j : Json) : Checked α := .error [⟨[], f, j⟩]

/-- The problems of a part, seen from the whole. -/
def under {α : Type} (s : Step) : Checked α → Checked α
  | .ok a => .ok a
  | .error ps => .error (ps.map (Problem.under s))

/-- Both results, or the problems of the first and then those of the second. -/
def both {α β : Type} : Checked α → Checked β → Checked (α × β)
  | .ok a, .ok b => .ok (a, b)
  | .ok _, .error qs => .error qs
  | .error ps, .ok _ => .error ps
  | .error ps, .error qs => .error (ps ++ qs)

/-- The problems of a checked result. -/
def problems {α : Type} : Checked α → List Problem
  | .ok _ => []
  | .error ps => ps

@[simp] theorem problems_under {α : Type} (s : Step) (r : Checked α) :
    problems (under s r) = (problems r).map (Problem.under s) := by
  cases r <;> rfl

@[simp] theorem problems_map {α β : Type} (f : α → β) (r : Checked α) :
    problems (r.map f) = problems r := by
  cases r <;> rfl

@[simp] theorem problems_both {α β : Type} (r : Checked α) (t : Checked β) :
    problems (both r t) = problems r ++ problems t := by
  cases r <;> cases t <;> simp [both, problems]

/-! ## Places -/

/-- The part of a value that a step leads to. -/
def step? : Step → Json → Option Json
  | .member name, .object ms => Dict.findEntry name ms
  | .item i, .array xs => xs[i]?
  | _, _ => none

/-- The value at a place. -/
def follow? : List Step → Json → Option Json
  | [], j => some j
  | s :: path, j => (step? s j).bind (follow? path)

end Wire

end ExperimentGroups
