import ExperimentGroups.Command.Run

/-!
# The command line

`show FILE` prints one text of the snapshot in the file, `inspect FILE` shows it as a table. The
options are `--format`, `--holdout`, `--holdout-value` and `--force`.

## Main definitions

* `main`: reads the words, the file, the environment and the files of settings, and prints
-/

namespace ExperimentGroups

namespace Command

/-- The lines of a table, with two blanks between columns. -/
def tableLines (rows : List (List String)) : List String :=
  let size (cell : String) : Nat := Cell.count cell.toList
  let columns := (Table.across "" rows).map fun cells =>
    let width := (cells.map size).foldl max 0
    cells.map fun cell => cell ++ String.ofList (List.replicate (width - size cell) ' ')
  (Table.across "" columns).map fun row => Wrap.shown ("  ".intercalate row).toList

/-- The last part of a path. -/
def fileName (path : String) : String :=
  String.ofList ((Text.split '/' path.toList).getLast?.getD [])

/-- The lines of an ending, and whether they are the result. -/
def endingLines : Ending → List String × Bool
  | .usage (some message) => (["Error: Invalid value for --force: " ++ message], false)
  | .usage none => (["Usage: (show | inspect) FILE [OPTIONS]"], false)
  | .undecodable => (["Error: the file is not encoded in UTF-8"], false)
  | .invalidSnapshot report => (report, true)
  | .invalidSettings problems =>
    ("Error: invalid settings:" :: problems.map fun p => p.fault.code false, false)
  | .brokenMarkup .unmatched => (["Error: a closing tag does not match any open tag"], false)
  | .brokenMarkup .badAction => (["Error: the arguments of an action are no literals"], false)
  | .brokenMarkup (.badComponent _) =>
    (["Error: a component of a color is empty or too long"], false)
  | .halted .unending => (["Error: the overrides never resolve"], false)
  | .halted .excess => (["Error: an integer is too long to be written"], false)
  | .printed text => ([text], true)
  | .inspected i => (i.head ++ tableLines i.rows ++ i.foot, true)

/-- The settings of the process. -/
def loadSettings : IO (Wire.Checked Settings) := do
  let names := [Settings.environmentName, Settings.logLevelName, Settings.separatorName]
  let bindings ← names.filterMapM fun name => do
    let value ← IO.getEnv name
    pure (value.map fun v => (name, v))
  let files ← Settings.fileNames.filterMapM fun (name : String) => do
    try
      let content ← IO.FS.readFile name
      pure (some (name, content))
    catch _ => pure none
  pure (Settings.load bindings files)

/-- The run that some words ask for. -/
def runWords (words : List String) : IO Ending := do
  match words with
  | [] => pure (.usage none)
  | word :: words =>
    match Verb.ofName? word, Arguments.parse? words with
    | some verb, some (arguments, path) =>
      let content ← try
          let bytes ← IO.FS.readBinFile path
          pure (some ⟨fileName path, bytes⟩)
        catch _ => pure none
      let settings ← loadSettings
      pure (run .standard settings verb arguments content)
    | _, _ => pure (.usage none)

end Command

end ExperimentGroups

open ExperimentGroups in
/-- Runs the words of the command line. -/
def main (words : List String) : IO UInt32 := do
  let ending ← Command.runWords words
  let (lines, isResult) := Command.endingLines ending
  for line in lines do
    if isResult then IO.println line else IO.eprintln line
  pure ending.status
