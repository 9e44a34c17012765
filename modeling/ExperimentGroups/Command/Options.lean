import ExperimentGroups.Override.Item

/-!
# Options of the command line

The options as they are written, and what they mean. Which words are integers is left to the parser
of the options, a library.

## Main definitions

* `Verb`, `Format`: what can be asked for, and the texts that can be printed
* `Arguments`: the options as they are written
* `Options`, `Arguments.options?`: what they mean to a reader of integers
* `Arguments.parse?`: the options of a list of words
-/

namespace ExperimentGroups

/-- **What can be asked for**: to print one text of a snapshot, or to inspect it. -/
inductive Verb where
  | print
  | inspect
  deriving DecidableEq

/-- The verb of a word. -/
def Verb.ofName? : String → Option Verb
  | "show" => some .print
  | "inspect" => some .inspect
  | _ => none

/-- **The texts that can be printed.** -/
inductive Format where
  | long
  | logging
  | groups
  | js
  | json
  deriving DecidableEq

/-- The format of a word. -/
def Format.ofName? : String → Option Format
  | "long" => some .long
  | "logging" => some .logging
  | "groups" => some .groups
  | "js" => some .js
  | "json" => some .json
  | _ => none

/-- **The options as they are written**; one that is not given is `none`. -/
structure Arguments where
  format : Option String
  holdout : Option String
  holdoutValue : Option String
  force : List String
  deriving DecidableEq

/-- No options. -/
def Arguments.none : Arguments := ⟨.none, .none, .none, []⟩

/-- **What the options mean.** The pins are read later. -/
structure Options where
  format : Format
  holdout : Option String
  holdoutValue : Int
  force : List String
  deriving DecidableEq

/-- The format that is asked for. The logging string is printed by default, and an inspection has no
format. -/
def Arguments.format? (verb : Verb) (a : Arguments) : Option Format :=
  match verb, a.format with
  | _, .none => some .logging
  | .print, some name => Format.ofName? name
  | .inspect, some _ => .none

/-- The bucket in which a hold-out is active, by default the one with value one. -/
def Arguments.holdoutValue? (integer? : String → Option Int) (a : Arguments) : Option Int :=
  match a.holdoutValue with
  | .none => some 1
  | some word => integer? word

/-- **What the options mean** to a reader of integers, unless one of them is wrong. -/
def Arguments.options? (integer? : String → Option Int) (verb : Verb) (a : Arguments) :
    Option Options := do
  let format ← a.format? verb
  let holdoutValue ← a.holdoutValue? integer?
  pure ⟨format, a.holdout, holdoutValue, a.force⟩

/-! ## Words -/

/-- Sets an option by its name. -/
def Arguments.set? (a : Arguments) (name value : String) : Option Arguments :=
  match name with
  | "--format" | "-F" => some { a with format := some value }
  | "--holdout" => some { a with holdout := some value }
  | "--holdout-value" => some { a with holdoutValue := some value }
  | "--force" | "-f" => some { a with force := a.force ++ [value] }
  | _ => .none

/-- The name and the value of a word that has both, divided by an equals sign. -/
def splitWord? (word : String) : Option (String × String) :=
  let cs := word.toList
  match cs.dropWhile (· ≠ '=') with
  | [] => .none
  | _ :: value => some (String.ofList (cs.takeWhile (· ≠ '=')), String.ofList value)

/-- The options and the files of a list of words, after the given ones. -/
def Arguments.parseFrom? : List String → Arguments → List String → Option (Arguments × List String)
  | [], a, files => some (a, files)
  | word :: words, a, files =>
    if word.toList.head? ≠ some '-' then parseFrom? words a (files ++ [word])
    else
      match splitWord? word with
      | some (name, value) => (a.set? name value).bind fun a => parseFrom? words a files
      | .none =>
        match words with
        | [] => .none
        | value :: words => (a.set? word value).bind fun a => parseFrom? words a files

/-- **The options of a list of words**, with the one file they name. -/
def Arguments.parse? (words : List String) : Option (Arguments × String) :=
  match parseFrom? words Arguments.none [] with
  | some (a, [file]) => some (a, file)
  | _ => .none

end ExperimentGroups
