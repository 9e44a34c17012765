import ExperimentGroups.Command.Display
import ExperimentGroups.Console.Markup
import ExperimentGroups.Console.Wrap
import ExperimentGroups.Wire.Problem

/-!
# Reports on invalid snapshots

A report names the file and lists what is wrong with the snapshot: the place, an explanation, and in
square brackets the code of the fault with an excerpt of the value. A report goes through the markup
of the console like all other texts, names of the snapshot included, so that a name or a value in
brackets may break it. The layout of a report is fixed; its words come from the library that checks
snapshots.

## Main definitions

* `Report.excerpt`: the start and the end of a long text
* `Report.Wording`: the words of the library
* `Report.text`: the report with markup
* `Report.lines`: what shows of it
-/

namespace ExperimentGroups

namespace Report

/-! ## Excerpts -/

/-- The size of a text in bytes. -/
def size : List Char → Nat
  | [] => 0
  | c :: cs => c.utf8Size + size cs

/-- The start of a text, as many characters as fit into some bytes. -/
def takeBytes : Nat → List Char → List Char
  | _, [] => []
  | n, c :: cs => if c.utf8Size ≤ n then c :: takeBytes (n - c.utf8Size) cs else []

/-- The most bytes that show whole. -/
def sizeLimit : Nat := 50

/-- The most bytes of the start of a longer text. -/
def startLimit : Nat := 25

/-- The most bytes of the end of a longer text. -/
def endLimit : Nat := 24

/-- **The excerpt of a text**: its start and its end, with dots between, if it is long. -/
def excerpt (cs : List Char) : List Char :=
  if size cs ≤ sizeLimit then cs
  else takeBytes startLimit cs ++ "...".toList ++ (takeBytes endLimit cs.reverse).reverse

/-! ## Words -/

open Wire

/-- **The words of the library that checks snapshots**: how it counts the problems, how it explains
a problem, what it calls the kind of a value, and the lines that it puts behind a problem. -/
structure Wording where
  head (count : Nat) : String
  explanation (p : Problem) : String
  kind (value : Json) : String
  note (p : Problem) : String

/-- The explanation of a fault in the document of a snapshot. Of a document that is no JSON, what the
reader of JSON has to say is left out. -/
def Wording.explain : Fault → String
  | .missing => "Field required"
  | .notRecord | .notDict => "Input should be an object"
  | .notList | .notTuple => "Input should be a valid array"
  | .notText => "Input should be a valid string"
  | .notInteger => "Input should be a valid integer"
  | .integerSyntax => "Input should be a valid integer, unable to parse string as an integer"
  | .integerTooLarge => "Unable to parse input string as an integer, exceeded maximum size"
  | .fractional => "Input should be a valid integer, got a number with a fractional part"
  | .notFinite => "Input should be a finite number"
  | .notNumber => "Input should be a valid number"
  | .numberSyntax => "Input should be a valid number, unable to parse string as a number"
  | .aboveOne => "Input should be less than or equal to 1"
  | .belowZero => "Input should be greater than or equal to 0"
  | .notJson => "Invalid JSON"
  -- These have a message of their own, or are no faults of a snapshot.
  | .severalValues _ | .textTooShort | .textTooLong | .notAChoice => ""

/-- The kind of a value. -/
def Wording.kindOf : Json → String
  | .null => "NoneType"
  | .bool _ => "bool"
  | .int _ => "int"
  | .double _ => "float"
  | .text _ => "str"
  | .array _ => "list"
  | .object _ => "dict"

/-- **The words that stand in a report without links**, which are the lines behind a problem. -/
def Wording.withoutLinks : Wording where
  head count :=
    Text.integerText count ++
      (if count = 1 then " validation error" else " validation errors") ++ " for ProctorResult"
  explanation p := explain p.fault
  kind := kindOf
  note _ := ""

/-! ## Lines -/

/-- A step of a place; a name with a full stop stands in backquotes. -/
def stepText : Step → String
  | .member name => if '.' ∈ name.toList then "`" ++ name ++ "`" else name
  | .item i => Text.integerText i

section Words

variable (words : Wording)

/-- The lines of a problem, each behind a line feed. The place of the whole value has no line. -/
def problemText (p : Problem) : String :=
  let place := if p.path = [] then "" else "\n" ++ ".".intercalate (p.path.map stepText)
  let value := String.ofList (excerpt p.input.settled.display)
  place ++ "\n  " ++ p.fault.message?.getD (words.explanation p) ++
    " [type=" ++ p.fault.code false ++ ", input_value=" ++ value ++ ", input_type=" ++
    words.kind p.input ++ "]" ++ words.note p

/-- **The report** on the snapshot in a file, with markup. -/
def text (fileName : String) (problems : List Problem) : String :=
  "[bold red]❌ Invalid snapshot " ++ fileName ++ ":[/bold red] " ++ words.head problems.length ++
    String.join (problems.map (problemText words))

/-- **What shows of a report**, line by line, unless its markup is broken. -/
def lines (fileName : String) (problems : List Problem) :
    Except Markup.Failure (List String) := do
  let report ← Markup.marked (text words fileName problems).toList
  Markup.judge (Wrap.freeLines report)
  pure ((Wrap.freeLines report).map fun line => Wrap.shown line.chars)

end Words

end Report

end ExperimentGroups
