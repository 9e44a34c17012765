import ExperimentGroups.Groups.Projection
import ExperimentGroups.Override.Basic
import ExperimentGroups.Service.Request
import ExperimentGroups.Wire.Naming
import ExperimentGroups.Wire.Nesting

/-!
# Resolutions

The resolution of a request is all that can be said about its snapshot under its overrides: the two
texts, the two configurations and the projection.

## Main definitions

* `Resolution`: the type
* `Request.groups`, `Request.resolve`: the snapshot of a request under its overrides, and its
  resolution
* `Resolution.json`: how a resolution stands in JSON
* `Resolution.rename`: the resolution with other names in the dictionaries of the projection
* `Resolution.isWithinNesting`: whether it can be written
-/

namespace ExperimentGroups

/-- **A resolution.** -/
structure Resolution where
  longString : String
  loggingString : String
  configuration : Dict Int
  requestedConfiguration : List (Int × Option Json)
  projection : Snapshot

/-- The snapshot of a request under its overrides. -/
def Request.groups (r : Request) : Groups :=
  ⟨r.snapshot, Override.hookOf (Override.plan r.holdoutTest r.holdoutValue r.forced)⟩

/-- **The resolution of a request.** -/
def Request.resolve (r : Request) : Outcome Resolution :=
  r.groups.run do
    let longString ← Query.longString r.snapshot
    let loggingString ← Query.loggingString r.snapshot
    let configuration ← Query.configuration r.snapshot
    let requestedConfiguration ← Query.requestedConfiguration r.snapshot r.requestedTests
    let projection ← Query.projection r.snapshot r.groups.hook
    pure ⟨longString, loggingString, configuration, requestedConfiguration, projection⟩

namespace Resolution

/-- How a resolution stands in JSON; all fields of the projection are there, and NaN and infinities
are written as nulls. -/
def json (r : Resolution) : Json :=
  .object
    [("long_string", .text r.longString),
      ("logging_string", .text r.loggingString),
      ("javascript_config", configurationJson r.configuration),
      ("requested_config", (requestedConfigurationJson r.requestedConfiguration).dropNonFinite),
      ("proctor_result", (Snapshot.shape.write .full r.projection).dropNonFinite)]

/-- The resolution with other names in the dictionaries of the projection. -/
def rename (f : String → String) (r : Resolution) : Resolution :=
  { r with projection := Snapshot.shape.rename f r.projection }

/-- Whether no free-form value nests too deeply to be written. -/
def isWithinNesting (r : Resolution) : Bool :=
  (r.requestedConfiguration.all fun p => p.2.all fun j => j.levels ≤ Wire.nestingLimit) &&
    Snapshot.shape.isWithinNesting r.projection

end Resolution

end ExperimentGroups
