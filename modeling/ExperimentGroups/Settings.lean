import ExperimentGroups.Settings.EnvFile
import ExperimentGroups.Wire.Shape

/-!
# Settings

The settings come from environment variables and from files of variables. Names are taken without
regard to case; the environment counts before the files, and a later file before an earlier one.

## Main definitions

* `Environment`, `LogLevel`, `Settings`: the settings
* `Settings.shape`: the settings as the fields of a record of texts
* `Settings.load`: the settings of an environment and of files
* `Logger`, `Logger.configure`: the logger that follows the settings
-/

namespace ExperimentGroups

/-- Where the program runs. -/
inductive Environment where
  | dev
  | test
  | prod
  deriving DecidableEq

/-- The name of an environment. -/
def Environment.label : Environment → String
  | .dev => "dev"
  | .test => "test"
  | .prod => "prod"

/-- How much is logged. -/
inductive LogLevel where
  | debug
  | info
  | warning
  | error
  | critical
  deriving DecidableEq

/-- The name of a log level. -/
def LogLevel.label : LogLevel → String
  | .debug => "DEBUG"
  | .info => "INFO"
  | .warning => "WARNING"
  | .error => "ERROR"
  | .critical => "CRITICAL"

/-- The number of a log level. -/
def LogLevel.number : LogLevel → Nat
  | .debug => 10
  | .info => 20
  | .warning => 30
  | .error => 40
  | .critical => 50

/-- **The settings.** The separator is a single character. -/
structure Settings where
  environment : Environment
  logLevel : LogLevel
  separator : String
  deriving DecidableEq

namespace Settings

/-- The variable of the environment. -/
def environmentName : String := "PROCTOR_GROUPS_ENV"

/-- The variable of the log level. -/
def logLevelName : String := "LOG_LEVEL"

/-- The variable of the separator. -/
def separatorName : String := "PROCTOR_GROUPS_SEPARATOR"

/-- The names of the environments. -/
def environments : List (String × Environment) :=
  [Environment.dev, .test, .prod].map fun e => (e.label, e)

/-- The names of the log levels. -/
def logLevels : List (String × LogLevel) :=
  [LogLevel.debug, .info, .warning, .error, .critical].map fun l => (l.label, l)

open Wire in
/-- **The settings as a record of texts**, one for each variable. -/
def shape : Shape Settings :=
  .record
    (.field (.plain environmentName) (some .dev) environment
        (.choice environments Environment.label) <|
      .field (.plain logLevelName) (some .info) logLevel (.choice logLevels LogLevel.label) <|
      .field (.plain separatorName) (some ",") separator (.text 1 (some 1)) .done)
    fun (environment, logLevel, separator, ()) => .ok ⟨environment, logLevel, separator⟩

/-! ## Sources -/

/-- The files that are read, a later one counting before an earlier one. -/
def fileNames : List String := [".env", ".env.local", ".env.dev", ".env.test", ".env.prod"]

/-- The environment, in which the variable of the environment is set in any case. -/
def completed (bindings : List (String × String)) : List (String × String) :=
  if (Dict.findEntry environmentName bindings).isSome then bindings
  else bindings ++ [(environmentName, Environment.dev.label)]

/-- All variables by their names in lower case, the files first and the environment last; a name
that a file binds to nothing has no value. -/
def sources (bindings files : List (String × String)) : Dict (Option String) :=
  let environment := completed bindings
  let fromFiles := fileNames.flatMap fun name =>
    match Dict.findEntry name files with
    | none => []
    | some content => EnvFile.read environment content
  .ofList <| (fromFiles ++ environment.map fun v => (v.1, some v.2)).map fun v =>
    (v.1.toLower, v.2)

/-- **The settings of an environment and of files.** -/
def load (bindings files : List (String × String)) : Wire.Checked Settings :=
  let found := sources bindings files
  shape.read .value <| Json.object <|
    [environmentName, logLevelName, separatorName].filterMap fun name =>
      (found.get? name.toLower).join.map fun value => (name, .text value)

end Settings

/-! ## The logger -/

/-- What can be seen of a logger. -/
structure Logger where
  level : Nat
  handlers : Nat
  propagates : Bool
  deriving DecidableEq

namespace Logger

/-- A logger before it is configured. -/
def fresh : Logger := ⟨0, 0, true⟩

/-- **The logger that follows the settings**; it gets a handler unless it has one. -/
def configure (settings : Settings) (logger : Logger) : Logger :=
  ⟨settings.logLevel.number, max 1 logger.handlers, false⟩

end Logger

end ExperimentGroups
