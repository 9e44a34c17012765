import ExperimentGroups.Console.Literal.Spacing
import ExperimentGroups.Json.Token
import ExperimentGroups.Text.Digit

/-!
# Numbers in literals

A number is written in decimal digits, perhaps with a point and an exponent, or as an integer in
hexadecimal, octal or binary ones. Single underscores may stand between digits, and the letter `j`
at the end makes a decimal number imaginary.

## Main definitions

* `Literal.Kind`: the kinds of literals
* `Literal.digits?`: digits with underscores between them
* `Literal.number`: the number at the start of a text
-/

namespace ExperimentGroups

namespace Literal

/-- **The kinds of literals.** A number with a sign in front is told from one without. The name
`set` is no literal by itself, only its call. -/
inductive Kind where
  | number (imaginary : Bool)
  | signed (imaginary : Bool)
  | sum
  | text
  | bytes
  | constant
  | group (hashable : Bool)
  | setName
  deriving DecidableEq

/-- Whether a literal can be hashed. -/
def Kind.hashable : Kind → Bool
  | .group h => h
  | .setName => false
  | _ => true

/-- Whether a literal is a real number. -/
def Kind.isReal : Kind → Bool
  | .number imaginary | .signed imaginary => !imaginary
  | _ => false

/-- A literal at the start of a text, and the rest. -/
abbrev Reading : Type := Option (Kind × List Char)

/-- Whether a character goes on with a name or a number. -/
def isNamePart (c : Char) : Bool := c.isAlphanum || c == '_' || 128 ≤ c.toNat

/-- Digits of a base with single underscores between them, and the rest: their number and whether
all are zero. -/
def digits? (isDigit : Char → Bool) : List Char → Option (Nat × Bool × List Char)
  | [] => none
  | c :: cs =>
    if isDigit c then
      let more := match cs with
        | '_' :: rest => digits? isDigit rest
        | rest => digits? isDigit rest
      match more with
      | some (n, zeros, rest) => some (n + 1, zeros && c == '0', rest)
      | none => some (1, c == '0', cs)
    else none

/-- The end of a number: nothing that goes on with it, but perhaps the letter that makes it
imaginary. -/
def endNumber (cs : List Char) : Reading :=
  let (imaginary, rest) := match cs with
    | c :: rest => if c = 'j' ∨ c = 'J' then (true, rest) else (false, cs)
    | [] => (false, [])
  if rest.head?.any isNamePart then none else some (.number imaginary, rest)

/-- What follows the exponent of a number, if one begins the text. -/
def afterExponent? : List Char → Option (List Char)
  | c :: cs =>
    if c = 'e' ∨ c = 'E' then
      (digits? Text.isAsciiDigit (Text.splitSign cs).2).map fun d => d.2.2
    else none
  | [] => none

/-- A number after its point. -/
def fraction (needsDigits : Bool) (cs : List Char) : Reading :=
  match digits? Text.isAsciiDigit cs with
  | some (_, _, rest) => endNumber ((afterExponent? rest).getD rest)
  | none => if needsDigits then none else endNumber ((afterExponent? cs).getD cs)

/-- Whether a character is a digit of the base that a letter names. -/
def baseDigit? (letter : Char) : Option (Char → Bool) :=
  match letter with
  | 'x' | 'X' => some fun c => (Json.hexDigit? c).isSome
  | 'o' | 'O' => some fun c => '0' ≤ c && c ≤ '7'
  | 'b' | 'B' => some fun c => c == '0' || c == '1'
  | _ => none

/-- A number in decimal digits. An integer only begins with a zero if it is one, and otherwise it is
not too long. -/
def decimal (cs : List Char) : Reading :=
  match digits? Text.isAsciiDigit cs with
  | none => none
  | some (n, zeros, rest) =>
    match rest, afterExponent? rest with
    | '.' :: rest, _ => fraction false rest
    | _, some rest => endNumber rest
    | _, none =>
      match endNumber rest with
      | some (.number false, after) =>
        if !zeros ∧ (cs.head? = some '0' ∨ Text.digitLimit < n) then none
        else some (.number false, after)
      | r => r

/-- **The number at the start of a text.** -/
def number : List Char → Reading
  | '.' :: cs => fraction true cs
  | '0' :: letter :: cs =>
    match baseDigit? letter with
    | some isDigit =>
      let digits := match cs with
        | '_' :: rest => rest
        | _ => cs
      (digits? isDigit digits).bind fun d =>
        if d.2.2.head?.any isNamePart then none else some (.number false, d.2.2)
    | none => decimal ('0' :: letter :: cs)
  | cs => decimal cs

end Literal

end ExperimentGroups
