import ExperimentGroups.Command.Inspection
import ExperimentGroups.Command.Options
import ExperimentGroups.Command.Report
import ExperimentGroups.Console.Sequence
import ExperimentGroups.Groups.Projection
import ExperimentGroups.Override.Basic
import ExperimentGroups.Settings

/-!
# Runs of the command line

A run reads its options, then its pins, then the snapshot file, and prints or inspects the snapshot
under the overrides. What is wrong first decides. Two things in it are left to libraries: which words
of the options are integers, and how the problems of a snapshot are worded.

## Main definitions

* `Ending`: how a run can end
* `Library`: what a run takes from libraries
* `Command.groups?`: the snapshot of a file under the overrides
* `Command.rendered`, `Command.printed`: the text of a format, and what the console prints of it
* `Command.run`: the run
-/

namespace ExperimentGroups

/-- **How a run can end.** An invalid snapshot has its report. -/
inductive Ending where
  | usage (message : Option String)
  | undecodable
  | invalidSnapshot (report : List String)
  | invalidSettings (problems : List Wire.Problem)
  | brokenMarkup (failure : Markup.Failure)
  | halted (h : Halt)
  | printed (text : String)
  | inspected (drawing : Drawing)

/-- **A file**: its name without the folder, and its content. -/
structure SnapshotFile where
  name : String
  content : ByteArray

/-- **What a run takes from libraries**: the reader of the integers among its options, and the words
of its reports. -/
structure Library where
  integer? (word : String) : Option Int
  words : Report.Wording

/-- The library that reads the integers that people write, in the digits of any script. -/
def Library.standard : Library := ⟨fun word => Text.integer? word.toList, .withoutLinks⟩

namespace Command

/-- How a run ends that finds an invalid snapshot. -/
def refusal (words : Report.Wording) (fileName : String) (problems : List Wire.Problem) : Ending :=
  match Report.lines words fileName problems with
  | .ok report => .invalidSnapshot report
  | .error failure => .brokenMarkup failure

/-- The snapshot of a file under the overrides, or how the run ends. The pins are read before the
file is looked at. -/
def groups? (words : Report.Wording) (options : Options) (file : SnapshotFile) :
    Except Ending Groups :=
  match Override.readItems options.force with
  | .error e => .error (.usage (some e.message))
  | .ok pins =>
    match String.fromUTF8? file.content with
    | none => .error .undecodable
    | some document =>
      match Snapshot.ofText document with
      | .error ps => .error (refusal words file.name ps)
      | .ok snapshot =>
        .ok ⟨snapshot, Override.hookOf (Override.plan options.holdout options.holdoutValue pins)⟩

/-- **The text that is printed** in a format. Only one format needs the separator of the
settings. -/
def rendered (g : Groups) (separator : String) : Format → Query String
  | .long => Query.longString g.snapshot
  | .logging => Query.loggingString g.snapshot
  | .groups => Query.allEntries g.snapshot separator
  | .js => do
    let values ← Query.configuration g.snapshot
    pure (configurationJson values).render
  | .json => do
    let projection ← Query.projection g.snapshot g.hook
    pure (projection.toText .wire)

/-- **What the console prints of a text** where it is no terminal: no terminal sequences. -/
def printed (text : String) : String := String.ofList (Sequence.strip text.toList)

/-- Prints a snapshot in a format. -/
def print (g : Groups) (settings : Wire.Checked Settings) (format : Format) : Ending :=
  let printWith (separator : String) : Ending :=
    match g.run (rendered g separator format) with
    | .error h => .halted h
    | .ok ⟨text, _⟩ => .printed (printed text)
  match format, settings with
  | .groups, .error ps => .invalidSettings ps
  | .groups, .ok settings => printWith settings.separator
  | _, _ => printWith ""

/-- Inspects a snapshot. -/
def inspect (g : Groups) : Ending :=
  match g.run (Query.inspection g.snapshot) with
  | .error h => .halted h
  | .ok ⟨inspection, _⟩ =>
    match inspection.drawing with
    | .error failure => .brokenMarkup failure
    | .ok drawing => .inspected drawing

/-- **The run** of a verb on a file, if there is one. -/
def run (library : Library) (settings : Wire.Checked Settings) (verb : Verb)
    (arguments : Arguments) (file : Option SnapshotFile) : Ending :=
  match arguments.options? library.integer? verb, file with
  | none, _ => .usage none
  | some _, none => .usage none
  | some options, some file =>
    match groups? library.words options file with
    | .error ending => ending
    | .ok g =>
      match verb with
      | .print => print g settings options.format
      | .inspect => inspect g

end Command

/-- The status with which a run ends. -/
def Ending.status : Ending → UInt32
  | .usage _ => 2
  | .printed _ => 0
  | .inspected _ => 0
  | _ => 1

end ExperimentGroups
