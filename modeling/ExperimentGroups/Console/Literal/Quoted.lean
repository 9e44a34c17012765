import ExperimentGroups.Console.Literal.Spacing
import ExperimentGroups.Json.Token
import ExperimentGroups.Text.CharacterName

/-!
# Quoted texts in literals

A text or some bytes stand between quotation marks, one or three on each side. Letters in front tell
bytes from a text, and whether backslashes stand for themselves. Otherwise a backslash begins an
escape sequence, of which some have to be complete: the number of a character, or its name in curly
brackets.

## Main definitions

* `Literal.isEscape`: whether an escape sequence is complete
* `Literal.quoted?`: the quoted text at the start of a text
* `Literal.moreQuoted?`: several quoted texts in a row
-/

namespace ExperimentGroups

namespace Literal

/-- Whether a text begins with so many hexadecimal digits. -/
def beginsHex (n : Nat) (cs : List Char) : Bool :=
  n ≤ cs.length && (cs.take n).all fun c => (Json.hexDigit? c).isSome

/-- The number of the first hexadecimal digits of a text. -/
def hexValue (n : Nat) (cs : List Char) : Nat :=
  ((cs.take n).filterMap Json.hexDigit?).foldl (fun v d => v * 16 + d) 0

/-- Whether a text begins with the name of a character in curly brackets. -/
def beginsName : List Char → Bool
  | '\x7b' :: cs =>
    Text.isCharacterName (cs.takeWhile (· ≠ '\x7d')) && cs.any (· == '\x7d')
  | _ => false

/-- Whether what follows a backslash goes on with an escape sequence. -/
def isEscape (bytes : Bool) : List Char → Bool
  | 'x' :: cs => beginsHex 2 cs
  | 'u' :: cs => bytes || beginsHex 4 cs
  | 'U' :: cs => bytes || (beginsHex 8 cs && hexValue 8 cs ≤ 0x10FFFF)
  | 'N' :: cs => bytes || beginsName cs
  | _ => true

/-- What follows a quoted text, of which the first marks were read. A line only ends between three
marks. -/
def afterQuoted? (raw bytes : Bool) (mark : Char) (triple : Bool) : List Char → Option (List Char)
  | [] => none
  | '\\' :: c :: cs =>
    if raw || isEscape bytes (c :: cs) then
      if bytes && 128 ≤ c.toNat then none else afterQuoted? raw bytes mark triple cs
    else none
  | c :: cs =>
    if c = mark ∧ (!triple || cs.take 2 == [mark, mark]) then
      some (if triple then cs.drop 2 else cs)
    else if (c = '\n' ∧ !triple) ∨ c = '\\' ∨ (bytes ∧ 128 ≤ c.toNat) then none
    else afterQuoted? raw bytes mark triple cs

/-- The meaning of the letters in front of a quoted text: whether it is raw, and whether it is
bytes. -/
def quotedLetters? (letters : List Char) : Option (Bool × Bool) :=
  match letters.map Char.toLower with
  | [] | ['u'] => some (false, false)
  | ['r'] => some (true, false)
  | ['b'] => some (false, true)
  | ['b', 'r'] | ['r', 'b'] => some (true, true)
  | _ => none

/-- One quoted text: whether it is bytes, and the rest. -/
def quoted? (cs : List Char) : Option (Bool × List Char) :=
  match quotedLetters? (cs.takeWhile Char.isAlpha), cs.dropWhile Char.isAlpha with
  | some (raw, bytes), mark :: rest =>
    if mark = '\'' ∨ mark = '"' then
      let triple := rest.take 2 == [mark, mark]
      (afterQuoted? raw bytes mark triple (if triple then rest.drop 2 else rest)).map (bytes, ·)
    else none
  | _, _ => none

/-- What follows further quoted texts of the same kind; `fuel` bounds how many there are. -/
def moreQuoted? (nested bytes : Bool) : Nat → List Char → Option (List Char)
  | 0, _ => none
  | fuel + 1, cs =>
    match quoted? (skip nested cs) with
    | none => some cs
    | some (b, rest) => if b = bytes then moreQuoted? nested bytes fuel rest else none

end Literal

end ExperimentGroups
