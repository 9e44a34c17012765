import ExperimentGroups.Json.Basic
import ExperimentGroups.Text.Quoted

/-!
# Writing JSON

The compact text of a value: no blanks, members in their order, integers in full, doubles by their
shortest digits, a null for every NaN and infinity. In a text only the quotation mark, the
backslash and the control characters below U+0020 are escaped.

## Main definitions

* `Json.escapeChar`, `Json.textChars`: texts
* `Json.chars`, `Json.render`: the compact text of a value
-/

namespace ExperimentGroups

namespace Json

/-- A character within a text. -/
def escapeChar (c : Char) : List Char :=
  if c = '"' then ['\\', '"']
  else if c = '\\' then ['\\', '\\']
  else if c = '\x08' then ['\\', 'b']
  else if c = '\x0c' then ['\\', 'f']
  else if c = '\n' then ['\\', 'n']
  else if c = '\r' then ['\\', 'r']
  else if c = '\t' then ['\\', 't']
  else if c.toNat < 0x20 then '\\' :: 'u' :: Text.hex 4 c.toNat
  else [c]

/-- A text in quotation marks. -/
def textChars (s : String) : List Char :=
  '"' :: (s.toList.flatMap escapeChar ++ ['"'])

/-- A double; a null for a NaN or an infinity. -/
def doubleChars (x : Double) : List Char :=
  if x.isFinite then x.text .json else ['n', 'u', 'l', 'l']

mutual

/-- **The compact text of a value.** -/
def chars : Json → List Char
  | .null => ['n', 'u', 'l', 'l']
  | .bool true => ['t', 'r', 'u', 'e']
  | .bool false => ['f', 'a', 'l', 's', 'e']
  | .int n => Text.integerChars n
  | .double x => doubleChars x
  | .text s => textChars s
  | .array [] => ['[', ']']
  | .array (x :: xs) => '[' :: (chars x ++ itemChars xs)
  | .object [] => ['{', '}']
  | .object ((k, x) :: ms) => '{' :: (textChars k ++ ':' :: (chars x ++ memberChars ms))

/-- The items after the first, and the closing bracket. -/
def itemChars : List Json → List Char
  | [] => [']']
  | x :: xs => ',' :: (chars x ++ itemChars xs)

/-- The members after the first, and the closing brace. -/
def memberChars : List (String × Json) → List Char
  | [] => ['}']
  | (k, x) :: ms => ',' :: (textChars k ++ ':' :: (chars x ++ memberChars ms))

end

/-- The compact text of a value, as a string. -/
def render (j : Json) : String := String.ofList j.chars

theorem toList_render (j : Json) : j.render.toList = j.chars := String.toList_ofList

end Json

end ExperimentGroups
