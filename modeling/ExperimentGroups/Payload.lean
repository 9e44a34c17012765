import ExperimentGroups.Wire.Shape

/-!
# Payloads

A payload is the data that a bucket hands to the application: nothing, or exactly one value of one
of seven kinds. In JSON each kind has a field of its own, and a payload with values in several of
them is refused.

## Main definitions

* `Payload`: the type
* `Payload.value?`: the value, whatever its kind
* `Payload.ofSlots`: the payload of seven fields
* `Payload.fields`, `Payload.shape`: how a payload stands in JSON
* `Payload.sameValue`: equality by value
-/

namespace ExperimentGroups

/-- **A payload**: nothing, or one value. -/
inductive Payload where
  | empty
  | double (x : Double)
  | doubles (xs : List Double)
  | long (n : Int)
  | longs (ns : List Int)
  | text (s : String)
  | texts (ss : List String)
  | map (members : Dict Json)
  deriving DecidableEq

namespace Payload

/-- Whether there is no value. -/
def isEmpty : Payload → Bool
  | .empty => true
  | _ => false

/-- **The value**, whatever its kind. -/
def value? : Payload → Option Json
  | .empty => none
  | .double x => some (.double x)
  | .doubles xs => some (.array (xs.map .double))
  | .long n => some (.int n)
  | .longs ns => some (.array (ns.map .int))
  | .text s => some (.text s)
  | .texts ss => some (.array (ss.map .text))
  | .map members => some (.ofDict members)

/-! ## The seven fields -/

/-- The double, if the payload is one. -/
def double? : Payload → Option Double
  | .double x => some x
  | _ => none

/-- The doubles, if the payload is a list of them. -/
def doubles? : Payload → Option (List Double)
  | .doubles xs => some xs
  | _ => none

/-- The integer, if the payload is one. -/
def long? : Payload → Option Int
  | .long n => some n
  | _ => none

/-- The integers, if the payload is a list of them. -/
def longs? : Payload → Option (List Int)
  | .longs ns => some ns
  | _ => none

/-- The text, if the payload is one. -/
def text? : Payload → Option String
  | .text s => some s
  | _ => none

/-- The texts, if the payload is a list of them. -/
def texts? : Payload → Option (List String)
  | .texts ss => some ss
  | _ => none

/-- The free-form members, if the payload has them. -/
def map? : Payload → Option (Dict Json)
  | .map members => some members
  | _ => none

/-- The values of the seven fields. -/
abbrev Slots : Type :=
  Option Double × Option (List Double) × Option Int × Option (List Int) × Option String ×
    Option (List String) × Option (Dict Json) × Unit

/-- The fields that have a value, by name, each as a payload. -/
def populated : Slots → List (String × Payload)
  | (x, xs, n, ns, s, ss, members, ()) =>
    [x.map fun x => ("double_value", .double x),
      xs.map fun xs => ("double_array", .doubles xs),
      n.map fun n => ("long_value", .long n),
      ns.map fun ns => ("long_array", .longs ns),
      s.map fun s => ("string_value", .text s),
      ss.map fun ss => ("string_array", .texts ss),
      members.map fun members => ("map", .map members)].filterMap id

/-- **The payload of seven fields**, of which at most one may have a value. -/
def ofSlots (slots : Slots) : Except Wire.Fault Payload :=
  match populated slots with
  | [] => .ok .empty
  | [(_, p)] => .ok p
  | several => .error (.severalValues (several.map Prod.fst))

open Wire in
/-- The seven fields in the order of declaration. -/
def fields : Fields Payload Slots :=
  .field ⟨"doubleValue", "double_value"⟩ (some none) double? (.nullable .double) <|
    .field ⟨"doubleArray", "double_array"⟩ (some none) doubles?
      (.nullable (.sequence .tuple .double)) <|
    .field ⟨"longValue", "long_value"⟩ (some none) long? (.nullable .integer) <|
    .field ⟨"longArray", "long_array"⟩ (some none) longs?
      (.nullable (.sequence .tuple .integer)) <|
    .field ⟨"stringValue", "string_value"⟩ (some none) text? (.nullable (.text 0 none)) <|
    .field ⟨"stringArray", "string_array"⟩ (some none) texts?
      (.nullable (.sequence .tuple (.text 0 none))) <|
    .field (.plain "map") (some none) map? (.nullable (.dict .anything)) .done

/-- **How a payload stands in JSON.** -/
def shape : Wire.Shape Payload := .record fields ofSlots

/-- **Equality by value.** -/
def sameValue : Payload → Payload → Bool
  | .empty, .empty => true
  | .double x, .double y => x.sameNumber y
  | .doubles xs, .doubles ys =>
    xs.length == ys.length && (xs.zip ys).all fun p => p.1.sameNumber p.2
  | .long m, .long n => m == n
  | .longs ms, .longs ns => ms == ns
  | .text s, .text t => s == t
  | .texts ss, .texts ts => ss == ts
  | .map ms, .map ns => ms.agree Json.sameValue ns
  | _, _ => false

end Payload

end ExperimentGroups
