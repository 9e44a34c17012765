import ExperimentGroups.Definition
import ExperimentGroups.Wire.Nesting

/-!
# Snapshots

A snapshot is the outcome of one evaluation of a test matrix: for every test the bucket that was
determined and the allocation that led there, and the definitions of the tests. A test may have a
bucket and no definition.

## Main definitions

* `Snapshot`: the type
* `Snapshot.shape`, `Snapshot.sameValue`: how a snapshot stands in JSON, and equality by value
* `Snapshot.ofText`, `Snapshot.toText`: the snapshot of a document, and its document in a style
* `Snapshot.toText?`: its document, unless it nests too deeply
-/

namespace ExperimentGroups

/-- **A snapshot.** -/
structure Snapshot where
  matrixVersion : String
  buckets : Dict Bucket
  allocations : Dict Allocation
  definitions : Dict Definition
  deriving DecidableEq

namespace Snapshot

open Wire in
/-- How a snapshot stands in JSON. -/
def shape : Shape Snapshot :=
  .record
    (.field ⟨"matrixVersion", "matrix_version"⟩ (some "") matrixVersion (.text 0 none) <|
      .field (.plain "buckets") (some .empty) buckets (.dict Bucket.shape) <|
      .field (.plain "allocations") (some .empty) allocations (.dict Allocation.shape) <|
      .field ⟨"testDefinitions", "test_definitions"⟩ (some .empty) definitions
        (.dict Definition.shape) .done)
    fun (matrixVersion, buckets, allocations, definitions, ()) =>
      .ok ⟨matrixVersion, buckets, allocations, definitions⟩

/-- Equality by value, without regard to the order of tests. -/
def sameValue (s t : Snapshot) : Bool :=
  s.matrixVersion == t.matrixVersion && s.buckets.agree Bucket.sameValue t.buckets &&
    s.allocations.agree Allocation.sameValue t.allocations &&
    s.definitions.agree Definition.sameValue t.definitions

/-- **The snapshot of a document.** -/
def ofText (document : String) : Wire.Checked Snapshot := shape.ofText document

/-- The document of a snapshot in a style. -/
def toText (style : Wire.Style) (s : Snapshot) : String := shape.toText style s

/-- The same, unless the snapshot nests too deeply. -/
def toText? (style : Wire.Style) (s : Snapshot) : Option String := shape.toText? style s

end Snapshot

end ExperimentGroups
