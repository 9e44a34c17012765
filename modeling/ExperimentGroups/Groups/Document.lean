import ExperimentGroups.Groups.Rendering
import ExperimentGroups.Json.Printer
import ExperimentGroups.Wire.Nesting

/-!
# Texts of configurations

A browser is handed its configuration as compact JSON text. There is no text of a configuration with
a payload that nests too deeply.

## Main definitions

* `Json.render?`: the text of a value, within the limit of nesting
* `Query.configurationValue`, `Query.configurationText`: the configuration as JSON, and its text
-/

namespace ExperimentGroups

/-- The compact text of a value, unless it nests too deeply. -/
def Json.render? (j : Json) : Option String :=
  if j.levels ≤ Wire.nestingLimit then some j.render else none

namespace Query

/-- **The configuration as JSON**, for all logged tests or for requested ones. -/
def configurationValue (s : Snapshot) : Option (List RequestedTest) → Query Json
  | none => do
    let values ← configuration s
    pure (configurationJson values)
  | some tests => do
    let pairs ← requestedConfiguration s tests
    pure (requestedConfigurationJson pairs)

/-- **The text of a configuration**, unless it nests too deeply. -/
def configurationText (s : Snapshot) (tests? : Option (List RequestedTest)) :
    Query (Option String) := do
  let j ← configurationValue s tests?
  pure j.render?

end Query

end ExperimentGroups
