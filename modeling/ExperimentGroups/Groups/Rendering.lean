import ExperimentGroups.Groups.Metadata

/-!
# Renderings

The texts and configurations that show the effective values of a snapshot. A test with a negative
value is inactive and is not logged.

An entry is the name of a test followed by its value, as in `bgtst0`; an allocated entry has the
identifier of the allocation in front, as in `#A1:bgtst0`, and is left out when there is none.

## Main definitions

* `Query.loggedNames`: the tests that are logged
* `Query.entry`, `Query.entries`, `Query.append`: entries for given names, and a buffer with them at
  its end
* `Query.loggingString`, `Query.allEntries`: the entries of both forms for all logged tests
* `Query.longString`: all tests with their descriptions
* `Query.configuration`, `Query.requestedConfiguration`: the configuration of a browser
-/

namespace ExperimentGroups

/-- The two forms of an entry. -/
inductive EntryForm where
  | plain
  | allocated
  deriving DecidableEq

/-- A test that a client asks for, with the value to use when the snapshot lacks the test. -/
structure RequestedTest where
  name : String
  fallbackValue : Int
  deriving DecidableEq

/-- Names in the order of their code points. -/
def sortNames (names : List String) : List String :=
  names.mergeSort fun a b => decide (a ≤ b)

/-- A buffer after entries were written to its end, with their number. -/
structure Appended where
  count : Nat
  text : String
  deriving DecidableEq

namespace Snapshot

/-- The entry of a test with a value. -/
def entry? (s : Snapshot) (form : EntryForm) (test : String) (value : Int) : Option String :=
  let plain := test ++ Text.integerText value
  match form with
  | .plain => some plain
  | .allocated =>
    match s.allocations.get? test with
    | none => none
    | some allocation =>
      if allocation.id.isEmpty then none else some (allocation.id ++ ":" ++ plain)

end Snapshot

namespace Query

/-! ## Entries -/

/-- **The tests that are logged**: those whose value is not negative. -/
def loggedNames (s : Snapshot) : Query (List String) := do
  let values ← s.buckets.keys.mapM fun test => value test (-1)
  pure (((s.buckets.keys.zip values).filter fun p => decide (0 ≤ p.2)).map Prod.fst)

/-- The entry for a name; a test that is not in the snapshot has none. -/
def entry (s : Snapshot) (form : EntryForm) (test : String) : Query (Option String) := do
  let effective ← ask test
  match effective.bind (s.entry? form test) with
  | none => pure none
  | some text =>
    write effective.toList
    pure (some text)

/-- The entries for some names. -/
def entries (s : Snapshot) (form : EntryForm) (names : List String) : Query (List String) := do
  let found ← names.mapM (entry s form)
  pure (found.filterMap id)

/-- **Writes the entries for some names to the end of a buffer**, joined by a separator. -/
def append (s : Snapshot) (form : EntryForm) (separator : String) (names : List String)
    (buffer : String) : Query Appended := do
  let es ← entries s form names
  pure ⟨es.length, buffer ++ separator.intercalate es⟩

/-- The entries of both forms for some names, joined by a separator. -/
def bothEntries (s : Snapshot) (separator : String) (names : List String) : Query String := do
  let plain ← entries s .plain names
  let allocated ← entries s .allocated names
  pure (separator.intercalate (plain ++ allocated))

/-- The entries of both forms for all logged tests, in the order of the snapshot. -/
def allEntries (s : Snapshot) (separator : String) : Query String := do
  let names ← loggedNames s
  bothEntries s separator names

/-- **The logging string**: the entries of both forms for all logged tests, each form in the order
of the names. -/
def loggingString (s : Snapshot) : Query String := do
  let names ← loggedNames s
  bothEntries s "," (sortNames names)

/-! ## Descriptions -/

/-- The name of a test with its description, if it has one. -/
def described (s : Snapshot) (test : String) : Query String := do
  let text ← description s test
  pure (if text.isEmpty then test else test ++ "-" ++ text)

/-- **The long string**: every test with its description, in the order of the names. -/
def longString (s : Snapshot) : Query String := do
  let parts ← (sortNames s.buckets.keys).mapM (described s)
  pure (",".intercalate parts)

/-! ## Configurations -/

/-- **The configuration of a browser**: the value of every logged test. -/
def configuration (s : Snapshot) : Query (Dict Int) := do
  let names ← loggedNames s
  let values ← names.mapM fun test => value test (-1)
  pure (.ofList (names.zip values))

/-- The value of a requested test, and the value of its payload. -/
def requested (s : Snapshot) (test : RequestedTest) : Query (Int × Option Json) := do
  let v ← value test.name test.fallbackValue
  let p ← payload s test.name
  pure (v, p.value?)

/-- **The configuration for requested tests**, in their order. -/
def requestedConfiguration (s : Snapshot) (tests : List RequestedTest) :
    Query (List (Int × Option Json)) :=
  tests.mapM (requested s)

end Query

/-- The configuration of a browser as JSON. -/
def configurationJson (values : Dict Int) : Json := .ofDict (values.map fun _ n => .int n)

/-- The configuration for requested tests as JSON: a pair for each, with a null for no payload. -/
def requestedConfigurationJson (pairs : List (Int × Option Json)) : Json :=
  .array (pairs.map fun p => .array [.int p.1, p.2.getD .null])

end ExperimentGroups
