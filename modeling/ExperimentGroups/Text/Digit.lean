/-!
# Decimal digits

The value of a decimal digit: of the ten ASCII digits, and of those of any script (the property
General_Category = Nd, whose characters come in runs of ten from zero to nine).

## Main definitions

* `Text.asciiDigit?`: the value of an ASCII digit
* `Text.zeros`: the digits zero of all scripts
* `Text.scriptDigit?`: the value of a digit of any script
* `Text.ofDigits`: the number of a list of digit values
* `Text.groupedDigits?`: digits with single underscores between them
* `Text.naturalChars`, `Text.integerChars`, `Text.integerText`: numbers in decimal digits
* `Text.isWithinDigits`: the integers that are not too long to be written
* `Text.spanDigits`, `Text.splitSign`, `Text.exponent?`: the parts of a number

## Main results

* `Text.scriptDigit?_of_asciiDigit?`: ASCII digits are digits
-/

namespace ExperimentGroups

namespace Text

/-- The value of an ASCII digit. -/
def asciiDigit? (c : Char) : Option Nat :=
  if '0' ≤ c ∧ c ≤ '9' then some (c.toNat - 48) else none

/-- Whether a character is an ASCII digit. -/
def isAsciiDigit (c : Char) : Bool := (asciiDigit? c).isSome

/-- The digits zero of all scripts; the digits one to nine of a script follow its zero. -/
def zeros : List Nat :=
  [48, 1632, 1776, 1984, 2406, 2534, 2662, 2790, 2918, 3046, 3174, 3302, 3430, 3558, 3664,
    3792, 3872, 4160, 4240, 6112, 6160, 6470, 6608, 6784, 6800, 6992, 7088, 7232, 7248, 42528,
    43216, 43264, 43472, 43504, 43600, 44016, 65296, 66720, 68912, 69734, 69872, 69942, 70096,
    70384, 70736, 70864, 71248, 71360, 71472, 71904, 72016, 72784, 73040, 73120, 92768, 92864,
    93008, 120782, 120792, 120802, 120812, 120822, 123200, 123632, 125264, 130032]

/-- The value of a digit of any script. -/
def scriptDigit? (c : Char) : Option Nat :=
  (zeros.find? fun z => z ≤ c.toNat && c.toNat < z + 10).map (c.toNat - ·)

theorem scriptDigit?_of_asciiDigit? {c : Char} {n : Nat} (h : asciiDigit? c = some n) :
    scriptDigit? c = some n := by
  unfold asciiDigit? at h
  split at h
  · next hc =>
    obtain ⟨h0, h9⟩ := hc
    have h0' : 48 ≤ c.toNat := h0
    have h9' : c.toNat ≤ 57 := h9
    have : (48 ≤ c.toNat && c.toNat < 48 + 10) = true := by simp; omega
    simp only [scriptDigit?, zeros, List.find?_cons, this]
    simpa using h
  · cases h

/-- The number of a list of digit values, the most significant first. -/
def ofDigits (ds : List Nat) : Nat := ds.foldl (fun n d => n * 10 + d) 0

/-- The values of one or more digits, with single underscores between digits or none. -/
def groupedDigits? (digit? : Char → Option Nat) : List Char → Option (List Nat)
  | [] => none
  | [c] => (digit? c).map ([·])
  | c :: '_' :: rest => do
    let d ← digit? c
    let ds ← groupedDigits? digit? rest
    pure (d :: ds)
  | c :: rest => do
    let d ← digit? c
    let ds ← groupedDigits? digit? rest
    pure (d :: ds)

/-! ## Writing -/

/-- A natural number in decimal digits. -/
def naturalChars (n : Nat) : List Char := Nat.toDigits 10 n

/-- An integer in decimal digits, with a minus in front of a negative one. -/
def integerChars (n : Int) : List Char :=
  (if n < 0 then ['-'] else []) ++ naturalChars n.natAbs

/-- The same as a string. -/
def integerText (n : Int) : String := String.ofList (integerChars n)

/-- The longest integer that is read or written, in digits. -/
def digitLimit : Nat := 4300

/-- Whether an integer is not too long to be written. -/
def isWithinDigits (n : Int) : Bool := n.natAbs < Nat.pow 10 digitLimit

/-! ## The parts of a number -/

/-- A sign or none, and the rest; whether the sign is a minus. -/
def splitSign : List Char → Bool × List Char
  | '+' :: cs => (false, cs)
  | '-' :: cs => (true, cs)
  | cs => (false, cs)

/-- The ASCII digits at the start of a text, by value, and the rest. -/
def spanDigits (cs : List Char) : List Nat × List Char :=
  ((cs.takeWhile isAsciiDigit).filterMap asciiDigit?, cs.dropWhile isAsciiDigit)

/-- An exponent, which is all that is left of a number: nothing, or a letter with a sign or none and
with digits. -/
def exponent? : List Char → Option Int
  | [] => some 0
  | c :: cs =>
    if c = 'e' ∨ c = 'E' then
      let (negative, rest) := splitSign cs
      match spanDigits rest with
      | (d :: ds, []) =>
        let n : Nat := ofDigits (d :: ds)
        some (if negative then -n else n)
      | _ => none
    else none

end Text

end ExperimentGroups
