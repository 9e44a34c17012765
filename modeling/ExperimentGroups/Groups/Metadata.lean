import ExperimentGroups.Groups.Hook
import ExperimentGroups.Lookup

/-!
# Metadata of effective values

The payload and the description of a test come from the first of three sources that has one:

1. the active bucket, which is the determined bucket if it has the effective value, and otherwise
   the first bucket of the definition with the effective value;
2. with a fallback, the first bucket of the definition with the value of the fallback;
3. with a fallback, the fallback itself, if the test has no bucket or the fallback has its effective
   value.

Why a source has nothing is written down at once, also where a later one has what is asked for.

## Main definitions

* `Metadata`: what a source knows about a value
* `Snapshot.definitionBucket`, `Snapshot.activeBucket`: buckets by value
* `Snapshot.sources`: the three sources
* `Query.bucket`, `Query.payload`, `Query.description`: the queries
-/

namespace ExperimentGroups

/-- **What a source knows about a value.** A fallback may be anything that has a value; what else it
lacks is empty. -/
structure Metadata where
  value : Int
  description : String
  payload : Payload
  deriving DecidableEq

/-- What a bucket knows. -/
def Bucket.metadata (b : Bucket) : Metadata := ⟨b.value, b.description, b.payloadOrEmpty⟩

/-- Whether a source has what is asked for. -/
def Facet.isIn (facet : Facet) (m : Metadata) : Bool :=
  match facet with
  | .payload => !m.payload.isEmpty
  | .description => !m.description.isEmpty

namespace Snapshot

/-- The first bucket of the definition of a test with a value. -/
def definitionBucket (s : Snapshot) (test : String) (value : Int) : Lookup Miss Bucket :=
  match s.definitions.get? test with
  | none => .missing (.undefined test)
  | some d => .ofOption (.undeclared test value) (d.bucket? value)

/-- **The bucket that carries the effective value.** -/
def activeBucket (s : Snapshot) (test : String) (effective : Option Int) : Lookup Miss Bucket :=
  match s.buckets.get? test, effective with
  | some determined, some e =>
    ((Lookup.found determined).filter (fun b => b.value == e) (.overridden test)).orElse
      fun _ => s.definitionBucket test e
  | _, _ => .missing (.absent test)

/-- The bucket of the definition with the value of the fallback. -/
def fallbackDefinition (s : Snapshot) (test : String) (fallback : Option Metadata) :
    Lookup Miss Bucket :=
  match fallback with
  | none => .missing .noFallback
  | some f => s.definitionBucket test f.value

/-- The fallback itself, unless another value is effective. -/
def fallbackItself (effective : Option Int) (fallback : Option Metadata) :
    Lookup Miss Metadata :=
  match fallback, effective with
  | none, _ => .missing .noFallback
  | some f, none => .found f
  | some f, some e => if f.value = e then .found f else .missing (.otherValue f.value e)

/-- **The three sources**, in order. -/
def sources (s : Snapshot) (test : String) (effective : Option Int) (fallback : Option Metadata) :
    List (Lookup Miss Metadata) :=
  [(s.activeBucket test effective).map Bucket.metadata,
    (s.fallbackDefinition test fallback).map Bucket.metadata,
    fallbackItself effective fallback]

end Snapshot

/-- The integers in the wording of the reason, if there is one. -/
def Lookup.numbers {α : Type} : Lookup Miss α → List Int
  | .found _ => []
  | .missing reason => reason.numbers

namespace Query

/-- The bucket that carries the effective value of a test, if there is one. -/
def bucket (s : Snapshot) (test : String) : Query (Option Bucket) := do
  let effective ← ask test
  let active := s.activeBucket test effective
  write active.numbers
  pure active.value?

/-- The first source that has what is asked for; if none has, the reasons are reported. -/
def metadata (s : Snapshot) (facet : Facet) (test : String) (fallback : Option Metadata) :
    Query (Option Metadata) := do
  let effective ← ask test
  let sources := s.sources test effective fallback
  write ((sources.takeWhile fun l => !l.value?.any facet.isIn).flatMap Lookup.numbers)
  match Lookup.first (sources.map fun l => l.filter facet.isIn (.lacking facet)) with
  | .found m => pure (some m)
  | .missing reasons =>
    report (.unresolved facet test reasons)
    pure none

/-- **The payload of a test**, empty if no source has one. -/
def payload (s : Snapshot) (test : String) (fallback : Option Metadata := none) :
    Query Payload := do
  let m ← metadata s .payload test fallback
  pure (m.elim .empty Metadata.payload)

/-- **The description of a test**, empty if no source has one. -/
def description (s : Snapshot) (test : String) (fallback : Option Metadata := none) :
    Query String := do
  let m ← metadata s .description test fallback
  pure (m.elim "" Metadata.description)

end Query

end ExperimentGroups
