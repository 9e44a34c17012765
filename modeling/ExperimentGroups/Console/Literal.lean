import ExperimentGroups.Console.Literal.Number
import ExperimentGroups.Console.Literal.Quoted
import ExperimentGroups.Console.Literal.Room

/-!
# Literals

The arguments of an action are literals: numbers (also imaginary ones, and sums of a real and an
imaginary one), texts and bytes in quotation marks, the constants `True`, `False`, `None` and `...`,
tuples in round brackets, sets and dictionaries in curly ones, and the empty set `set()`. Only what
can be hashed is a member of a set or a name in a dictionary; sets and dictionaries cannot. Brackets
nest to a certain depth.

What a literal stands for does not matter here, only whether a text is one.

## Main definitions

* `Literal.expression`: the literal at the start of a text
* `Literal.bare?`: some literals without brackets around them
* `Literal.isLiteral`: whether a text is a literal
-/

namespace ExperimentGroups

namespace Literal

/-! ## Names -/

/-- The characters that stand for the letters of the name `set` in other styles of writing. -/
def setLetters : List (Char × List Nat) :=
  [('s', [0x17F, 0x2E2, 0x209B, 0xFF53, 0x1D42C, 0x1D460, 0x1D494, 0x1D4C8, 0x1D4FC, 0x1D530,
      0x1D564, 0x1D598, 0x1D5CC, 0x1D600, 0x1D634, 0x1D668, 0x1D69C]),
    ('e', [0x1D49, 0x2091, 0x212F, 0x2147, 0xFF45, 0x1D41E, 0x1D452, 0x1D486, 0x1D4EE, 0x1D522,
      0x1D556, 0x1D58A, 0x1D5BE, 0x1D5F2, 0x1D626, 0x1D65A, 0x1D68E]),
    ('t', [0x1D57, 0x209C, 0xFF54, 0x1D42D, 0x1D461, 0x1D495, 0x1D4C9, 0x1D4FD, 0x1D531, 0x1D565,
      0x1D599, 0x1D5CD, 0x1D601, 0x1D635, 0x1D669, 0x1D69D])]

/-- Whether a word is the name `set`, in any style of writing. -/
def isSetName (word : List Char) : Bool :=
  word.length == setLetters.length &&
    (word.zip setLetters).all fun p => p.1 == p.2.1 || p.1.toNat ∈ p.2.2

/-- A name, and what may follow it. -/
def name (cs : List Char) : Reading :=
  let word := cs.takeWhile isNamePart
  let rest := cs.dropWhile isNamePart
  if String.ofList word ∈ ["True", "False", "None"] then some (.constant, rest)
  else if isSetName word then some (.setName, rest)
  else none

/-- A literal that is not in brackets and has no sign. -/
def atom (nested : Bool) (room : Room) (cs : List Char) : Reading :=
  match cs with
  | '.' :: '.' :: '.' :: rest => some (.constant, rest)
  | c :: rest =>
    if Text.isAsciiDigit c ∨ (c = '.' ∧ rest.head?.any Text.isAsciiDigit) then number cs
    else
      match quoted? cs with
      | some (bytes, rest) =>
        if (room.down? pieceDescent).isSome then
          (moreQuoted? nested bytes (rest.length + 1) rest).map fun rest =>
            (if bytes then .bytes else .text, rest)
        else none
      | none => name cs
  | [] => none

/-! ## Literals -/

/-- A literal with a sign in front, which has to be a number. -/
def signed : Reading → Reading
  | some (.number imaginary, rest) => some (.signed imaginary, rest)
  | _ => none

/-- A literal, or the empty set where the name `set` is called. -/
def called (nested : Bool) (room : Room) : Reading → Reading
  | some (.setName, rest) =>
    match skip nested rest with
    | '(' :: rest =>
      match skip true rest, room.inside?.bind (·.down? argumentDescent) with
      | ')' :: rest, some _ => some (.group false, rest)
      | _, _ => none
    | _ => some (.setName, rest)
  | r => r

/-- What brackets with some parts stand for, where a comma follows the last part or not: in round
ones, a single part without a comma is that part itself. -/
def Bracket.group? : Bracket → List Kind → (comma : Bool) → Option Kind
  | .round, [kind], false => some kind
  | .round, kinds, _ =>
    if Kind.setName ∈ kinds then none else some (.group (kinds.all Kind.hashable))
  | .curly, kinds, _ => if kinds.all Kind.hashable then some (.group false) else none

mutual

/-- **The literal at the start of a text**; `fuel` bounds the steps of reading. -/
def expression (nested : Bool) (room : Room) : Nat → List Char → Reading
  | 0, _ => none
  | fuel + 1, cs =>
    match operand nested room fuel (skip nested cs) with
    | none => none
    | some (left, rest) =>
      let sign := skip nested rest
      if sign.head? = some '+' ∨ sign.head? = some '-' then
        match operand nested room fuel (skip nested (sign.drop 1)) with
        | some (.number true, rest) => if left.isReal then some (.sum, rest) else none
        | _ => none
      else some (left, rest)
termination_by structural fuel => fuel

/-- A literal that is no sum. -/
def operand (nested : Bool) (room : Room) : Nat → List Char → Reading
  | 0, _ => none
  | fuel + 1, cs =>
    match cs with
    | '+' :: cs =>
      (room.down? 1).bind fun inner => signed (operand nested inner fuel (skip nested cs))
    | '-' :: cs =>
      (room.down? 1).bind fun inner => signed (operand nested inner fuel (skip nested cs))
    | '(' :: cs =>
      called nested room <| room.inside?.bind fun inner =>
        parts .round inner [] fuel (skip true cs)
    | '\x7b' :: cs => room.inside?.bind fun inner => parts .curly inner [] fuel (skip true cs)
    | cs => called nested room (atom nested room cs)
termination_by structural fuel => fuel

/-- What brackets stand for, read from the next part up to the closing one; `kinds` are the parts
before it, the last one first. Curly brackets hold a dictionary if a colon follows the first part. -/
def parts (bracket : Bracket) (room : Room) (kinds : List Kind) : Nat → List Char → Reading
  | 0, _ => none
  | fuel + 1, cs =>
    match room.down? (bracket.descent kinds.length) with
    | none => none
    | some inner =>
      if cs.head? = some bracket.close then (bracket.group? kinds true).map fun k => (k, cs.drop 1)
      else
        match expression true inner fuel cs with
        | none => none
        | some (kind, rest) =>
          match skip true rest with
          | ',' :: rest => parts bracket room (kind :: kinds) fuel (skip true rest)
          | ':' :: rest =>
            if bracket = .curly ∧ kinds = [] then entry room inner kind fuel rest else none
          | c :: rest =>
            if c = bracket.close then (bracket.group? (kind :: kinds) false).map fun k => (k, rest)
            else none
          | [] => none
termination_by structural fuel => fuel

/-- A dictionary, read from the value of an entry up to the closing bracket. -/
def entry (room inner : Room) (key : Kind) : Nat → List Char → Reading
  | 0, _ => none
  | fuel + 1, cs =>
    match expression true inner fuel cs with
    | none | some (.setName, _) => none
    | some (_, rest) =>
      if key.hashable then
        match skip true rest with
        | '\x7d' :: rest => some (.group false, rest)
        | ',' :: rest => entries room fuel (skip true rest)
        | _ => none
      else none
termination_by structural fuel => fuel

/-- A dictionary, read from an entry that is not the first up to the closing bracket. -/
def entries (room : Room) : Nat → List Char → Reading
  | 0, _ => none
  | fuel + 1, cs =>
    match room.down? (Bracket.curly.descent 1) with
    | none => none
    | some inner =>
      if cs.head? = some Bracket.curly.close then some (.group false, cs.drop 1)
      else
        match expression true inner fuel cs with
        | none => none
        | some (key, rest) =>
          match skip true rest with
          | ':' :: rest => entry room inner key fuel rest
          | _ => none
termination_by structural fuel => fuel

end

/-- What follows some literals with commas between them, at the end of which a comma may stand;
`before` literals were there before them. -/
def bare? (before : Nat) : Nat → List Char → Option (List Char)
  | 0, _ => none
  | fuel + 1, cs =>
    match expression false (.outermost before) (3 * cs.length + 3) cs with
    | none | some (.setName, _) => none
    | some (_, rest) =>
      match skip false rest with
      | ',' :: rest =>
        match skip false rest with
        | [] => some []
        | '\n' :: rest => some ('\n' :: rest)
        | rest => bare? (before + 1) fuel rest
      | rest => some rest

/-- **Whether a text is a literal**, or a tuple without its brackets. -/
def isLiteral (cs : List Char) : Bool :=
  if '\x00' ∈ cs then false
  else
    match (afterLines? (unifyLines cs)).bind (bare? 0 (cs.length + 1)) with
    | some [] => true
    | some ('\n' :: rest) => afterLines? rest == some []
    | _ => false

end Literal

end ExperimentGroups
