import ExperimentGroups.Groups.Rendering

/-!
# Requests

A request holds a snapshot, the overrides to apply, and the tests that a client asks for.

## Main definitions

* `RequestedTest.shape`, `RequestedTest.sameValue`: requested tests in JSON
* `Request`, `Request.shape`, `Request.sameValue`: requests in JSON
-/

namespace ExperimentGroups

open Wire in
/-- How a requested test stands in JSON; its name is not empty. -/
def RequestedTest.shape : Shape RequestedTest :=
  .record
    (.field (.plain "name") none RequestedTest.name (.text 1 none) <|
      .field (.plain "fallback_value") none RequestedTest.fallbackValue .integer .done)
    fun (name, fallbackValue, ()) => .ok ⟨name, fallbackValue⟩

/-- Equality by value. -/
def RequestedTest.sameValue (t u : RequestedTest) : Bool := t == u

/-- **A request.** -/
structure Request where
  snapshot : Snapshot
  holdoutTest : Option String
  holdoutValue : Int
  forced : Dict Int
  requestedTests : List RequestedTest
  deriving DecidableEq

namespace Request

open Wire in
/-- How a request stands in JSON. -/
def shape : Shape Request :=
  .record
    (.field (.plain "snapshot") none snapshot Snapshot.shape <|
      .field (.plain "holdout_test") (some none) holdoutTest (.nullable (.text 0 none)) <|
      .field (.plain "holdout_value") (some 1) holdoutValue .integer <|
      .field (.plain "forced") (some .empty) forced (.dict .integer) <|
      .field (.plain "requested_tests") (some []) requestedTests
        (.sequence .list RequestedTest.shape) .done)
    fun (snapshot, holdoutTest, holdoutValue, forced, requestedTests, ()) =>
      .ok ⟨snapshot, holdoutTest, holdoutValue, forced, requestedTests⟩

/-- Equality by value. -/
def sameValue (r s : Request) : Bool :=
  r.snapshot.sameValue s.snapshot && r.holdoutTest == s.holdoutTest &&
    r.holdoutValue == s.holdoutValue && r.forced.agree (· == ·) s.forced &&
    r.requestedTests == s.requestedTests

end Request

end ExperimentGroups
