import ExperimentGroups.Text.Printable

/-!
# Quoted texts

A text in quotation marks that shows what it holds: unprintable characters are escaped by their
code point. The mark is the apostrophe, unless the text has apostrophes and no double quotation
marks.

## Main definitions

* `Text.hex`: a number in hexadecimal digits of a fixed width
* `Text.escape`: one character within given marks
* `Text.quote`: the quoted text
-/

namespace ExperimentGroups

namespace Text

/-- The hexadecimal digit of a number below sixteen, in lower case. -/
def hexDigit (n : Nat) : Char := Nat.digitChar (n % 16)

/-- The last `width` hexadecimal digits of a number, the most significant first. -/
def hex : Nat → Nat → List Char
  | 0, _ => []
  | width + 1, n => hex width (n / 16) ++ [hexDigit n]

/-- One character of a quoted text: the mark and the backslash are escaped, the usual three controls
by a letter, and what is unprintable by its code point in two, four or eight digits. -/
def escape (mark c : Char) : List Char :=
  if c = mark ∨ c = '\\' then ['\\', c]
  else if c = '\n' then ['\\', 'n']
  else if c = '\r' then ['\\', 'r']
  else if c = '\t' then ['\\', 't']
  else if isPrintable c then [c]
  else if c.toNat < 0x100 then '\\' :: 'x' :: hex 2 c.toNat
  else if c.toNat < 0x10000 then '\\' :: 'u' :: hex 4 c.toNat
  else '\\' :: 'U' :: hex 8 c.toNat

/-- The mark for a text. -/
def quoteMark (cs : List Char) : Char :=
  if '\'' ∈ cs ∧ '"' ∉ cs then '"' else '\''

/-- **The quoted text.** -/
def quote (cs : List Char) : List Char :=
  let mark := quoteMark cs
  mark :: (cs.flatMap (escape mark) ++ [mark])

end Text

end ExperimentGroups
