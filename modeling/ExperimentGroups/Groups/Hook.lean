import ExperimentGroups.Groups.Query
import ExperimentGroups.Snapshot

/-!
# Hooks and effective values

A hook decides the effective value of a test that has a bucket. It sees the snapshot, the name of
the test and its determined bucket, and it is itself a query: it may ask for the effective values of
other tests, which runs the hook for them. Such a run ends only if no test is asked for while its
own value is being found. Since a hook has no memory, a run that is nested more deeply than there
are tests with buckets meets some test twice and never ends, so the depth of the nesting is bounded
by the number of buckets.

## Main definitions

* `Hook`: the hooks; `Hook.keep` keeps every value, `Hook.chain` applies several in order
* `Groups`: a snapshot with a hook
* `Groups.effectiveWithin`, `Groups.effective`: effective values, to a given depth and in full
* `Groups.run`: a query, run against the effective values
-/

namespace ExperimentGroups

/-- **A hook**: the effective value of a test, from the snapshot, the name and the bucket. -/
abbrev Hook := Snapshot → String → Bucket → Query Int

/-- The hook that keeps every value. -/
def Hook.keep : Hook := fun _ _ bucket => pure bucket.value

/-- **The hooks in order**: each one sees the bucket with the value that the one before it chose. -/
def Hook.chain : List Hook → Hook
  | [] => Hook.keep
  | hook :: hooks => fun snapshot test bucket => do
    let value ← hook snapshot test bucket
    Hook.chain hooks snapshot test { bucket with value }

/-- **A snapshot with a hook.** -/
structure Groups where
  snapshot : Snapshot
  hook : Hook

namespace Groups

/-- The message that an effective value differs from the determined one, if it does. -/
def overrideLog (test : String) (determined effective : Int) : List Message :=
  if effective = determined then [] else [.override test determined effective]

/-- The effective value of a test, with the hook nested no deeper than `depth`. -/
def effectiveWithin (g : Groups) : Nat → String → Outcome (Option Int)
  | 0, test =>
    match g.snapshot.buckets.get? test with
    | none => .answer none
    | some _ => .error .unending
  | depth + 1, test =>
    match g.snapshot.buckets.get? test with
    | none => .answer none
    | some bucket =>
      ((g.hook g.snapshot test bucket).run (g.effectiveWithin depth)).andThen fun value =>
        .ok ⟨some value, overrideLog test bucket.value value⟩

/-- **The effective value of a test**; a test without a bucket has none. -/
def effective (g : Groups) (test : String) : Outcome (Option Int) :=
  g.effectiveWithin g.snapshot.buckets.size test

/-- **A query, run against the effective values.** -/
def run {α : Type} (g : Groups) (q : Query α) : Outcome α := q.run g.effective

theorem effective_of_absent (g : Groups) {test : String}
    (h : g.snapshot.buckets.get? test = none) : g.effective test = .answer none := by
  unfold effective
  cases g.snapshot.buckets.size <;> simp [effectiveWithin, h]

end Groups

end ExperimentGroups
