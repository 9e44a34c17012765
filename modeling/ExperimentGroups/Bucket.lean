import ExperimentGroups.Payload

/-!
# Buckets

A bucket is a named variant of a test, selected by an integer. A negative value means that the test
is inactive.

## Main definitions

* `Bucket`: the type
* `Bucket.bare`: a bucket of which nothing but the value is known
* `Bucket.shape`, `Bucket.sameValue`: how a bucket stands in JSON, and equality by value
-/

namespace ExperimentGroups

/-- **A bucket of a test.** -/
structure Bucket where
  name : String
  value : Int
  description : String
  payload : Option Payload
  deriving DecidableEq

namespace Bucket

/-- A bucket of which nothing but the value is known. -/
def bare (value : Int) : Bucket := ⟨"", value, "", none⟩

/-- The payload, empty if there is none. -/
def payloadOrEmpty (b : Bucket) : Payload := b.payload.getD .empty

open Wire in
/-- How a bucket stands in JSON. -/
def shape : Shape Bucket :=
  .record
    (.field (.plain "name") none name (.text 0 none) <|
      .field (.plain "value") none value .integer <|
      .field (.plain "description") (some "") description (.text 0 none) <|
      .field (.plain "payload") (some none) payload (.nullable Payload.shape) .done)
    fun (name, value, description, payload, ()) => .ok ⟨name, value, description, payload⟩

/-- Equality by value; no payload is not the empty payload. -/
def sameValue (b c : Bucket) : Bool :=
  b.name == c.name && b.value == c.value && b.description == c.description &&
    match b.payload, c.payload with
    | none, none => true
    | some p, some q => p.sameValue q
    | _, _ => false

end Bucket

end ExperimentGroups
