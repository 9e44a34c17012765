import ExperimentGroups.Dict
import ExperimentGroups.Text.Blank

/-!
# Files of variables

A file of variables holds bindings `NAME=value`, each on a line of its own. The word `export` may
stand in front of a name, and a comment after a value. A name or a value may be quoted; a quoted
value may have escape sequences and go on over several lines. A name without an equals sign is
bound to nothing. A line that is no binding is passed over.

A value may refer to variables, as in `${NAME}` or `${NAME:-default}`. The bindings before it count
first, then the environment, then the default.

## Main definitions

* `EnvFile.bindings`: the bindings as they are written
* `EnvFile.expand`: a value with what it refers to
* `EnvFile.read`: the bindings of a file within an environment
-/

namespace ExperimentGroups

namespace EnvFile

/-! ## Lines -/

/-- Whether a character is a blank and does not end a line. -/
def isInlineBlank (c : Char) : Bool := Text.isBlankOrSeparator c && c != '\n'

/-- A text in which each line ends with a line feed. -/
def unifyLines : List Char → List Char
  | '\r' :: '\n' :: cs => '\n' :: unifyLines cs
  | '\r' :: cs => '\n' :: unifyLines cs
  | c :: cs => c :: unifyLines cs
  | [] => []

/-- What follows the line. -/
def nextLine (cs : List Char) : List Char := (cs.dropWhile (· ≠ '\n')).drop 1

/-- What follows the end of a line, where nothing but a comment may stand in front of it. -/
def lineEnd (cs : List Char) : Except (List Char) (List Char) :=
  match cs.dropWhile isInlineBlank with
  | [] => .ok []
  | '\n' :: rest => .ok rest
  | '#' :: rest => .ok (nextLine rest)
  | rest => .error rest

/-! ## Names -/

/-- Whether a character can belong to a name that is not quoted. -/
def isNameChar (c : Char) : Bool := c != '=' && c != '#' && !Text.isBlankOrSeparator c

/-- A text without the word `export` in front. -/
def dropExport : List Char → List Char
  | 'e' :: 'x' :: 'p' :: 'o' :: 'r' :: 't' :: c :: cs =>
    if isInlineBlank c then cs.dropWhile isInlineBlank
    else 'e' :: 'x' :: 'p' :: 'o' :: 'r' :: 't' :: c :: cs
  | cs => cs

/-- The name at the start of a text, none in front of a comment, and the rest. -/
def name : List Char → Except (List Char) (Option String × List Char)
  | '#' :: cs => .ok (none, '#' :: cs)
  | '\'' :: cs =>
    match cs.takeWhile (· ≠ '\''), cs.dropWhile (· ≠ '\'') with
    | c :: name, _ :: rest => .ok (some (String.ofList (c :: name)), rest)
    | _, _ => .error ('\'' :: cs)
  | cs =>
    match cs.takeWhile isNameChar with
    | [] => .error cs
    | c :: name => .ok (some (String.ofList (c :: name)), cs.dropWhile isNameChar)

/-! ## Values -/

/-- A quoted text, whose first mark was read, and the rest. A character after a backslash does not
end the text, whichever it is. -/
def quoted? (mark : Char) : List Char → Option (List Char × List Char)
  | [] => none
  | '\\' :: c :: cs => (quoted? mark cs).map fun p => ('\\' :: c :: p.1, p.2)
  | c :: cs =>
    if c = mark then some ([], cs)
    else if c = '\\' then none
    else (quoted? mark cs).map fun p => (c :: p.1, p.2)

/-- What an escape sequence stands for; there are more of them between double quotation marks. -/
def escaped? (mark c : Char) : Option Char :=
  if c = '\\' ∨ c = '\'' then some c
  else if mark = '\'' then none
  else match c with
  | '"' => some '"'
  | 'a' => some '\x07'
  | 'b' => some '\x08'
  | 'f' => some '\x0c'
  | 'n' => some '\n'
  | 'r' => some '\r'
  | 't' => some '\t'
  | 'v' => some '\x0b'
  | _ => none

/-- A quoted text without its escape sequences. -/
def unescape (mark : Char) : List Char → List Char
  | '\\' :: c :: cs =>
    match escaped? mark c with
    | some d => d :: unescape mark cs
    | none => '\\' :: unescape mark (c :: cs)
  | c :: cs => c :: unescape mark cs
  | [] => []

/-- A line up to the first number sign that has a blank before it. -/
def beforeComment : List Char → List Char
  | [] => []
  | c :: cs =>
    if Text.isBlankOrSeparator c ∧ (cs.dropWhile Text.isBlankOrSeparator).head? = some '#' then []
    else c :: beforeComment cs

/-- The value after an equals sign, and the rest. -/
def value (cs : List Char) : Except (List Char) (List Char × List Char) :=
  let between (mark : Char) (rest : List Char) : Except (List Char) (List Char × List Char) :=
    match quoted? mark rest with
    | some (text, rest) => .ok (unescape mark text, rest)
    | none => .error rest
  match cs.dropWhile isInlineBlank with
  | '\'' :: rest => between '\'' rest
  | '"' :: rest => between '"' rest
  | _ =>
    .ok (Text.trim Text.isBlankOrSeparator (beforeComment (cs.takeWhile (· ≠ '\n'))),
      cs.dropWhile (· ≠ '\n'))

/-! ## Bindings -/

/-- A name with its value, if it has one. -/
abbrev Binding : Type := String × Option (List Char)

/-- The value of a binding, if an equals sign begins the text, and the rest. -/
def valueAfterName : List Char → Except (List Char) (Option (List Char) × List Char)
  | '=' :: cs => (value cs).map fun p => (some p.1, p.2)
  | cs => .ok (none, cs)

/-- The binding at the start of a text, none in front of a comment, and what follows its line. -/
def binding (cs : List Char) : Except (List Char) (Option Binding × List Char) := do
  let (name, cs) ← name (dropExport cs)
  let (value, cs) ← valueAfterName (cs.dropWhile isInlineBlank)
  let cs ← lineEnd cs
  pure (name.map fun n => (n, value), cs)

/-- The same; where there is no binding, the line is passed over from the place where that shows. -/
def bindingOrLine (cs : List Char) : Option Binding × List Char :=
  match binding cs with
  | .ok p => p
  | .error rest => (none, nextLine rest)

/-- **The bindings of a text**, in order. -/
def bindings (cs : List Char) : List Binding :=
  let start := cs.dropWhile Text.isBlankOrSeparator
  let (first, rest) := bindingOrLine start
  if start = [] then []
  else if _ : rest.length < cs.length then first.toList ++ bindings rest
  else first.toList
termination_by cs.length
decreasing_by assumption

/-! ## References -/

/-- A reference whose first brace was read: its name, its default if it has one, and the rest. -/
def reference? (cs : List Char) : Option (String × Option (List Char) × List Char) :=
  let isNamePart (c : Char) : Bool := c != '\x7d' && c != ':'
  let name := String.ofList (cs.takeWhile isNamePart)
  match cs.dropWhile isNamePart with
  | ':' :: '-' :: rest =>
    match rest.dropWhile (· ≠ '\x7d') with
    | _ :: after => some (name, some (rest.takeWhile (· ≠ '\x7d')), after)
    | [] => none
  | '\x7d' :: rest => some (name, none, rest)
  | _ => none

/-- **A value with what it refers to**: `lookup` is given a name and a default. -/
def expand (lookup : String → List Char → List Char) : List Char → List Char
  | '$' :: '\x7b' :: rest =>
    match reference? rest with
    | some (name, default, after) =>
      lookup name (default.getD []) ++
        if _ : after.length < rest.length + 2 then expand lookup after else []
    | none => '$' :: expand lookup ('\x7b' :: rest)
  | c :: cs => c :: expand lookup cs
  | [] => []
termination_by cs => cs.length
decreasing_by
  · exact ‹after.length < rest.length + 2›
  · exact Nat.lt_succ_self _
  · exact Nat.lt_succ_self _

/-- What a name stands for: in the bindings so far, of which the last counts, else in the
environment, else the default. A name that is bound to nothing stands for nothing. -/
def lookup (environment : List (String × String)) (done : List Binding) (name : String)
    (default : List Char) : List Char :=
  match Dict.findLast name done with
  | some value => value.getD []
  | none => ((Dict.findEntry name environment).map String.toList).getD default

/-- One more binding, with what its value refers to. -/
def resolve (environment : List (String × String)) (done : List Binding) (b : Binding) :
    List Binding :=
  done ++ [(b.1, b.2.map (expand (lookup environment done)))]

/-! ## Files -/

/-- A text without a byte order mark in front. -/
def dropMark : List Char → List Char
  | c :: cs => if c = '\uFEFF' then cs else c :: cs
  | [] => []

/-- **The bindings of a file** within an environment, in order. -/
def read (environment : List (String × String)) (content : String) :
    List (String × Option String) :=
  let written := bindings (unifyLines (dropMark content.toList))
  (written.foldl (resolve environment) []).map fun b => (b.1, b.2.map String.ofList)

end EnvFile

end ExperimentGroups
