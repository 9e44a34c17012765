import ExperimentGroups.Text.Turns

/-!
# Punycode

A label of a host name is written in ASCII: its ASCII characters come first, and after a hyphen
numbers tell which other characters are to be inserted, and where. The characters are inserted in
the order of their code points, each number says how many chances to insert are let pass, and a
number is written in digits whose weights adapt to the numbers before it.

## Main definitions

* `Punycode.encode`: a label in ASCII
* `Punycode.decode?`: the label that a text stands for
-/

namespace ExperimentGroups

namespace Punycode

/-! ## Digits -/

/-- The digits are the small letters and then the ASCII digits. -/
def digitChar (d : Nat) : Char := if d < 26 then Char.ofNat (97 + d) else Char.ofNat (22 + d)

/-- The value of a digit; a capital letter counts as a small one. -/
def digit? (c : Char) : Option Nat :=
  if 'a' ≤ c ∧ c ≤ 'z' then some (c.toNat - 97)
  else if 'A' ≤ c ∧ c ≤ 'Z' then some (c.toNat - 65)
  else if '0' ≤ c ∧ c ≤ '9' then some (c.toNat - 22)
  else none

/-- The least digit that does not end a number, by its place. -/
def threshold (bias place : Nat) : Nat := min 26 (max 1 (36 * (place + 1) - bias))

theorem threshold_pos (bias place : Nat) : 0 < threshold bias place := by
  unfold threshold
  omega

/-- A distance that is divided by 35 until it is small, and how many places that took. -/
def scaleDown (distance places : Nat) : Nat × Nat :=
  if 455 < distance then scaleDown (distance / 35) (places + 1) else (distance, places)
termination_by distance
decreasing_by exact Nat.div_lt_self (by omega) (by omega)

/-- The bias for the number after one that was `distance`, where a label has `count` characters. -/
def adapt (distance count : Nat) (isFirst : Bool) : Nat :=
  let distance := if isFirst then distance / 700 else distance / 2
  let (distance, places) := scaleDown (distance + distance / count) 0
  36 * places + 36 * distance / (distance + 38)

/-! ## Writing -/

/-- The digits of a number from a place on. -/
def writeNumber (bias place n : Nat) : List Char :=
  let t := threshold bias place
  if n < t then [digitChar n]
  else digitChar (t + (n - t) % (36 - t)) :: writeNumber bias (place + 1) ((n - t) / (36 - t))
termination_by n
decreasing_by
  have := threshold_pos bias place
  exact Nat.lt_of_le_of_lt (Nat.div_le_self ..) (by omega)

/-- **The course of writing a label**: the digits so far, the chances let pass since the last
number, the bias, and how many characters are written, of which how many are ASCII. -/
structure Course where
  digits : List Char
  passed : Nat
  bias : Nat
  written : Nat
  basic : Nat

/-- The next character of a label, where the characters with the code point `point` are written. -/
def Course.step (point : Nat) (s : Course) (c : Char) : Course :=
  if c.toNat < point then { s with passed := s.passed + 1 }
  else if c.toNat = point then
    { s with
      digits := s.digits ++ writeNumber s.bias 0 s.passed
      passed := 0
      bias := adapt s.passed (s.written + 1) (s.written == s.basic)
      written := s.written + 1 }
  else s

/-- All characters with certain code points, in order, where no code point below `reached` is left
to write. -/
def Course.run (label : List Char) (reached : Nat) (s : Course) : List Nat → Course
  | [] => s
  | point :: points =>
    let s := { s with passed := s.passed + (point - reached) * (s.written + 1) }
    let s := label.foldl (Course.step point) s
    Course.run label (point + 1) { s with passed := s.passed + 1 } points

/-- A code point among others in order, each of them once. -/
def insertPoint (n : Nat) : List Nat → List Nat
  | [] => [n]
  | m :: ms => if n < m then n :: m :: ms else if n = m then m :: ms else m :: insertPoint n ms

/-- **A label in ASCII.** -/
def encode (label : List Char) : List Char :=
  let basic := label.filter (·.toNat < 128)
  let points := ((label.map Char.toNat).filter (128 ≤ ·)).foldr insertPoint []
  let course := Course.run label 128 ⟨[], 0, 72, basic.length, basic.length⟩ points
  (if basic = [] then [] else basic ++ ['-']) ++ course.digits

/-! ## Reading -/

/-- The number at the start of a text, from a place on, where a digit one counts `weight`; and the
rest. -/
def number? (bias place weight : Nat) : List Char → Option (Nat × List Char)
  | [] => none
  | c :: cs =>
    match digit? c with
    | none => none
    | some d =>
      let t := threshold bias place
      if d < t then some (d * weight, cs)
      else (number? bias (place + 1) (weight * (36 - t)) cs).map fun p => (d * weight + p.1, p.2)

/-- The character of a code point, a replacement character where there is none. -/
def charAt (point : Nat) : Char := if point.isValidChar then Char.ofNat point else '\uFFFD'

/-- The label with all characters that numbers insert. The next code point to insert is `point`, and
`index` the next place. -/
def insertAll? (label : List Char) (point index bias : Nat) (isFirst : Bool) (cs : List Char) :
    Option (List Char) :=
  match number? bias 0 1 cs with
  | none => if cs = [] then some label else none
  | some (n, rest) =>
    let places := label.length + 1
    let point := point + (index + n) / places
    let index := (index + n) % places
    if 0x10FFFF < point then none
    else
      let label := label.take index ++ charAt point :: label.drop index
      if _ : rest.length < cs.length then
        insertAll? label point (index + 1) (adapt n places isFirst) false rest
      else none
termination_by cs.length
decreasing_by assumption

/-- **The label that a text stands for.** What is before the last hyphen is ASCII. -/
def decode? (cs : List Char) : Option (List Char) :=
  let digits := (cs.reverse.takeWhile (· ≠ '-')).reverse
  let basic := (cs.reverse.dropWhile (· ≠ '-')).drop 1
  insertAll? basic.reverse 128 0 72 true digits

end Punycode

end ExperimentGroups
