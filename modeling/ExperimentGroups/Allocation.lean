import ExperimentGroups.Wire.Shape

/-!
# Allocations

An allocation is how a visitor came to a bucket: a rule, and the shares of the traffic that go to
the bucket values. Its identifier stands in front of the entries of the logging string.

## Main definitions

* `Allocation.Range`, `Allocation`: the types
* `Allocation.shape`, `Allocation.sameValue`: how an allocation stands in JSON, and equality by
  value
-/

namespace ExperimentGroups

/-- A share of the traffic, between zero and one, for one bucket value. -/
structure Allocation.Range where
  bucketValue : Int
  length : Double
  deriving DecidableEq

/-- **An allocation.** -/
structure Allocation where
  rule : Option String
  ranges : List Allocation.Range
  id : String
  deriving DecidableEq

namespace Allocation

open Wire in
/-- How a range stands in JSON. -/
def Range.shape : Shape Range :=
  .record
    (.field ⟨"bucketValue", "bucket_value"⟩ none Range.bucketValue .integer <|
      .field (.plain "length") none Range.length .share .done)
    fun (bucketValue, length, ()) => .ok ⟨bucketValue, length⟩

open Wire in
/-- How an allocation stands in JSON. -/
def shape : Shape Allocation :=
  .record
    (.field (.plain "rule") (some none) rule (.nullable (.text 0 none)) <|
      .field (.plain "ranges") (some []) ranges (.sequence .list Range.shape) <|
      .field (.plain "id") (some "") id (.text 0 none) .done)
    fun (rule, ranges, id, ()) => .ok ⟨rule, ranges, id⟩

/-- Equality of ranges by value. -/
def Range.sameValue (r s : Range) : Bool :=
  r.bucketValue == s.bucketValue && r.length.sameNumber s.length

/-- Equality by value. -/
def sameValue (a b : Allocation) : Bool :=
  a.rule == b.rule && a.id == b.id && a.ranges.length == b.ranges.length &&
    (a.ranges.zip b.ranges).all fun p => p.1.sameValue p.2

end Allocation

end ExperimentGroups
