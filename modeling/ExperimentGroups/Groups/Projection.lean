import ExperimentGroups.Groups.Metadata

/-!
# Projections

The projection of a snapshot under a hook is the snapshot with the effective buckets in place of the
determined ones. A bucket that the hook leaves alone stays; another one is replaced by the bucket of
the definition with the effective value, or by a bare bucket if the definition has none.

## Main definitions

* `Snapshot.projectedBucket`: the bucket that stands for an effective value
* `Query.projection`: the projection
* `Groups.projection`: the same, run
-/

namespace ExperimentGroups

/-- The bucket that stands for an effective value. -/
def Snapshot.projectedBucket (s : Snapshot) (test : String) (effective : Int) : Bucket :=
  (s.activeBucket test (some effective)).getOr (.bare effective)

/-- **The projection** of a snapshot under a hook. The hook is asked directly, so what it chooses is
not reported; what it asks for is. -/
def Query.projection (s : Snapshot) (hook : Hook) : Query Snapshot := do
  let buckets ← s.buckets.entries.mapM fun entry => do
    let effective ← hook s entry.1 entry.2
    write (s.activeBucket entry.1 (some effective)).numbers
    pure (entry.1, s.projectedBucket entry.1 effective)
  pure { s with buckets := .ofList buckets }

/-- **The projection of a snapshot with its hook.** -/
def Groups.projection (g : Groups) : Outcome Snapshot := g.run (.projection g.snapshot g.hook)

end ExperimentGroups
