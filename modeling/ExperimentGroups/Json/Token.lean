import ExperimentGroups.Json.Basic
import ExperimentGroups.Text.Digit

/-!
# JSON tokens

The tokens of a JSON text are found by an automaton that takes one symbol at a time. A word (a
number or a name) ends at the first character that cannot belong to it; the literals of
floating-point numbers `NaN`, `Infinity` and `-Infinity` are words too. A text ends at its closing
quotation mark. Of a text that is not made of tokens, the tokens in front of the first fault are
given.

An escape sequence may name half of a surrogate pair without the other half, and in some encodings
such a half may stand in a text by itself. A lone surrogate is no character; where it is let in, a
character of a given block of 2048 code points stands for it, and the token is marked. A token that
holds a character of the block itself is marked too.

## Main definitions

* `Json.Symbol`: what a text is made of
* `Json.Token`: the tokens
* `Json.word?`: the token of a word
* `Json.Scanner.step`, `Json.scan`: the automaton and the tokens of a text
-/

namespace ExperimentGroups

namespace Json

/-- **A symbol of a text**: a character, or half of a surrogate pair. -/
inductive Symbol where
  | char (c : Char)
  | lone (surrogate : Nat)
  deriving DecidableEq

/-- The marks of a text token: whether lone surrogates were let in, and whether it holds characters
of the block that stands for them. -/
structure Marks where
  lone : Bool
  clash : Bool
  deriving DecidableEq

/-- **A token.** An integer may be too long to be read. -/
inductive Token where
  | openBracket
  | closeBracket
  | openBrace
  | closeBrace
  | comma
  | colon
  | word (value : Json)
  | excess
  | text (s : String) (marks : Marks)
  deriving DecidableEq

/-! ## Words -/

/-- Whether the rest of a number after its whole part makes it a double: it begins with a point and
a digit, or with the letter of an exponent, a sign or none, and a digit. -/
def beginsDouble : List Char → Bool
  | '.' :: c :: _ => Text.isAsciiDigit c
  | c :: cs => (c == 'e' || c == 'E') && ((Text.splitSign cs).2.head?.any Text.isAsciiDigit)
  | [] => false

/-- **The token of a number**: a sign or none, a whole part without a needless zero in front, a
fraction or none and an exponent or none. With neither fraction nor exponent it is an integer. The
limit holds for integers, whatever follows their digits, and for doubles only where it is asked
for. -/
def number? (limitsDoubles : Bool) (cs : List Char) : Option Token :=
  let (negative, unsigned) := match cs with
    | '-' :: rest => (true, rest)
    | _ => (false, cs)
  let (whole, rest) := Text.spanDigits unsigned
  if whole = [] ∨ (whole.head? = some 0 ∧ whole.length ≠ 1) then none
  else if Text.digitLimit < whole.length ∧ (limitsDoubles ∨ !beginsDouble rest) then some .excess
  else match rest with
  | [] =>
    let n : Nat := Text.ofDigits whole
    some (.word (.int (if negative then -n else n)))
  | '.' :: rest => do
    let (fraction, rest) := Text.spanDigits rest
    guard (fraction ≠ [])
    let e ← Text.exponent? rest
    pure (.word (.double
      (.ofDecimal negative (Text.ofDigits (whole ++ fraction)) (e - fraction.length))))
  | rest => do
    let e ← Text.exponent? rest
    pure (.word (.double (.ofDecimal negative (Text.ofDigits whole) e)))

/-- The token of a word. -/
def word? (limitsDoubles : Bool) : List Char → Option Token
  | ['n', 'u', 'l', 'l'] => some (.word .null)
  | ['t', 'r', 'u', 'e'] => some (.word (.bool true))
  | ['f', 'a', 'l', 's', 'e'] => some (.word (.bool false))
  | ['N', 'a', 'N'] => some (.word (.double .nan))
  | ['I', 'n', 'f', 'i', 'n', 'i', 't', 'y'] => some (.word (.double (.infinite false)))
  | ['-', 'I', 'n', 'f', 'i', 'n', 'i', 't', 'y'] => some (.word (.double (.infinite true)))
  | cs => number? limitsDoubles cs

/-- Whether a character can belong to a word. -/
def isWordChar (c : Char) : Bool :=
  c.isAlphanum || c == '+' || c == '-' || c == '.'

/-! ## Code units -/

/-- The value of a hexadecimal digit in either case. -/
def hexDigit? (c : Char) : Option Nat :=
  if '0' ≤ c ∧ c ≤ '9' then some (c.toNat - 48)
  else if 'a' ≤ c ∧ c ≤ 'f' then some (c.toNat - 87)
  else if 'A' ≤ c ∧ c ≤ 'F' then some (c.toNat - 55)
  else none

/-- Whether a code unit is the first half of a surrogate pair. -/
def isHighSurrogate (n : Nat) : Bool := 0xD800 ≤ n && n ≤ 0xDBFF

/-- Whether a code unit is the second half of a surrogate pair. -/
def isLowSurrogate (n : Nat) : Bool := 0xDC00 ≤ n && n ≤ 0xDFFF

/-- The character of a surrogate pair. -/
def pairChar (high low : Nat) : Char :=
  Char.ofNat (0x10000 + (high - 0xD800) * 0x400 + (low - 0xDC00))

/-- What stands for a lone surrogate, in the block that begins at a code point. -/
def standIn (block surrogate : Nat) : Char := Char.ofNat (block + (surrogate - 0xD800))

/-- Whether a character belongs to a block. -/
def isStandIn (block : Nat) (c : Char) : Bool := block ≤ c.toNat && c.toNat < block + 0x800

/-! ## The automaton -/

/-- **How tokens are read**: the block that stands for lone surrogates, if they are let in, and
whether the limit of numbers holds for doubles. -/
structure Lexicon where
  block : Option Nat
  limitsDoubles : Bool

/-- What a text token holds so far: its characters, the last first, and its marks. -/
structure Scanned where
  reversed : List Char
  marks : Marks

/-- Nothing so far. -/
def Scanned.empty : Scanned := ⟨[], ⟨false, false⟩⟩

/-- One more character. -/
def Scanned.push (block : Option Nat) (c : Char) (t : Scanned) : Scanned :=
  ⟨c :: t.reversed, { t.marks with clash := t.marks.clash || block.any (isStandIn · c) }⟩

/-- One more lone surrogate. -/
def Scanned.pushLone (block surrogate : Nat) (t : Scanned) : Scanned :=
  ⟨standIn block surrogate :: t.reversed, { t.marks with lone := true }⟩

/-- Where the automaton stands: between tokens, in a word, or in a text (plainly, after a backslash,
or within a code unit; after the first half of a surrogate pair it waits for the other half). -/
inductive Scanner where
  | between
  | word (reversed : List Char)
  | text (t : Scanned)
  | escape (t : Scanned)
  | unit (t : Scanned) (high : Option Nat) (left : Nat) (value : Nat)
  | pending (t : Scanned) (high : Nat)
  | pendingEscape (t : Scanned) (high : Nat)

namespace Scanner

/-- A character between tokens, with the tokens so far, the last first. -/
def stepBetween (c : Char) (done : List Token) : Option (Scanner × List Token) :=
  if c = ' ' ∨ c = '\t' ∨ c = '\n' ∨ c = '\r' then some (.between, done)
  else if c = '[' then some (.between, .openBracket :: done)
  else if c = ']' then some (.between, .closeBracket :: done)
  else if c = '{' then some (.between, .openBrace :: done)
  else if c = '}' then some (.between, .closeBrace :: done)
  else if c = ',' then some (.between, .comma :: done)
  else if c = ':' then some (.between, .colon :: done)
  else if c = '"' then some (.text .empty, done)
  else if isWordChar c then some (.word [c], done)
  else none

/-- The end of a word. -/
def endWord (lexicon : Lexicon) (reversed : List Char) (done : List Token) : Option (List Token) :=
  (word? lexicon.limitsDoubles reversed.reverse).map (· :: done)

/-- A character of a text; a control character is refused. -/
def stepText (lexicon : Lexicon) (t : Scanned) (c : Char) (done : List Token) :
    Option (Scanner × List Token) :=
  if c = '"' then some (.between, .text (String.ofList t.reversed.reverse) t.marks :: done)
  else if c = '\\' then some (.escape t, done)
  else if c.toNat < 0x20 then none
  else some (.text (t.push lexicon.block c), done)

/-- A character after a backslash. -/
def stepEscape (lexicon : Lexicon) (t : Scanned) (c : Char) (done : List Token) :
    Option (Scanner × List Token) :=
  let put (c : Char) := some (Scanner.text (t.push lexicon.block c), done)
  if c = '"' ∨ c = '\\' ∨ c = '/' then put c
  else if c = 'b' then put '\x08'
  else if c = 'f' then put '\x0c'
  else if c = 'n' then put '\n'
  else if c = 'r' then put '\r'
  else if c = 't' then put '\t'
  else if c = 'u' then some (.unit t none 4 0, done)
  else none

/-- A whole code unit without a first half before it. -/
def endUnit (lexicon : Lexicon) (t : Scanned) (n : Nat) : Option Scanner :=
  if isHighSurrogate n then some (.pending t n)
  else if isLowSurrogate n then lexicon.block.map fun block => .text (t.pushLone block n)
  else some (.text (t.push lexicon.block (Char.ofNat n)))

/-- A whole code unit, after a first half or not. -/
def endUnitAfter (lexicon : Lexicon) (t : Scanned) (high : Option Nat) (n : Nat) :
    Option Scanner :=
  match high with
  | none => endUnit lexicon t n
  | some h =>
    if isLowSurrogate n then some (.text (t.push lexicon.block (pairChar h n)))
    else lexicon.block.bind fun block => endUnit lexicon (t.pushLone block h) n

/-- One character, with the tokens so far, the last first. -/
def stepChar (lexicon : Lexicon) : Scanner × List Token → Char → Option (Scanner × List Token)
  | (.between, done), c => stepBetween c done
  | (.word w, done), c =>
    if isWordChar c then some (.word (c :: w), done)
    else (endWord lexicon w done).bind (stepBetween c)
  | (.text t, done), c => stepText lexicon t c done
  | (.escape t, done), c => stepEscape lexicon t c done
  | (.unit t high left value, done), c =>
    (hexDigit? c).bind fun d =>
      if left ≤ 1 then (endUnitAfter lexicon t high (value * 16 + d)).map (·, done)
      else some (.unit t high (left - 1) (value * 16 + d), done)
  | (.pending t high, done), c =>
    if c = '\\' then some (.pendingEscape t high, done)
    else lexicon.block.bind fun block => stepText lexicon (t.pushLone block high) c done
  | (.pendingEscape t high, done), c =>
    if c = 'u' then some (.unit t (some high) 4 0, done)
    else lexicon.block.bind fun block => stepEscape lexicon (t.pushLone block high) c done

/-- A surrogate that stands in the text by itself, which is only let in within a text token. It is
never the other half of one that an escape sequence names. -/
def stepLone (lexicon : Lexicon) (surrogate : Nat) :
    Scanner × List Token → Option (Scanner × List Token)
  | (.text t, done) => lexicon.block.map fun block => (.text (t.pushLone block surrogate), done)
  | (.pending t high, done) => lexicon.block.map fun block =>
    (.text ((t.pushLone block high).pushLone block surrogate), done)
  | _ => none

/-- **One symbol**, with the tokens so far, the last first. -/
def step (lexicon : Lexicon) (state : Scanner × List Token) : Symbol → Option (Scanner × List Token)
  | .char c => stepChar lexicon state c
  | .lone surrogate => stepLone lexicon surrogate state

/-- The tokens at the end of the text, the last first. -/
def finish (lexicon : Lexicon) : Scanner × List Token → Option (List Token)
  | (.between, done) => some done
  | (.word w, done) => endWord lexicon w done
  | _ => none

/-- The tokens from a state on. -/
def run (lexicon : Lexicon) : Scanner × List Token → List Symbol → List Token × Bool
  | state, [] =>
    match finish lexicon state with
    | some done => (done.reverse, true)
    | none => (state.2.reverse, false)
  | state, s :: ss =>
    match step lexicon state s with
    | some next => run lexicon next ss
    | none => (state.2.reverse, false)

end Scanner

/-- **The tokens of a text**, in order, and whether they are the whole text. -/
def scan (lexicon : Lexicon) (symbols : List Symbol) : List Token × Bool :=
  Scanner.run lexicon (.between, []) symbols

end Json

end ExperimentGroups
