/-!
# Room for nested literals

Literals nest to a certain depth. Two things bound it: how many brackets are open at one place, and
how many steps lead down to it through the ranks of operators, from the loosest to the tightest. A
pair of brackets takes all the ranks once more, and a part that is not the first between its
brackets lies some steps deeper. The steps count for a part that is looked for, whether there is one
or not.

## Main definitions

* `Literal.Room`: how many brackets and steps are left at a place
* `Literal.Bracket`: the brackets of literals, with the steps to a part between them
* `Literal.Room.down?`, `Literal.Room.inside?`: the room some steps deeper, and between brackets
-/

namespace ExperimentGroups

namespace Literal

/-- **The room at a place in a text**: how many brackets may still be opened there within each
other, and how many steps further down a part may lie. -/
structure Room where
  brackets : Nat
  steps : Nat

/-- The brackets around tuples, and those around sets and dictionaries. -/
inductive Bracket where
  | round
  | curly
  deriving DecidableEq

/-- The character that closes a pair of brackets. -/
def Bracket.close : Bracket → Char
  | .round => ')'
  | .curly => '\x7d'

/-- How many steps a part lies below its brackets, by the number of parts before it. -/
def Bracket.descent : Bracket → Nat → Nat
  | .round, 0 => 28
  | .round, 1 => 30
  | .round, _ => 31
  | .curly, 0 => 29
  | .curly, _ => 30

/-- The steps to the argument that is looked for where a name is called. -/
def argumentDescent : Nat := 24

/-- The steps to the pieces of a text. -/
def pieceDescent : Nat := 2

/-- The room at the start of a literal, by the number of literals before it that stand next to it
with commas between them. -/
def Room.outermost (before : Nat) : Room := ⟨200, if before = 0 then 5975 else 5973⟩

namespace Room

/-- The room some steps further down. -/
def down? (r : Room) (n : Nat) : Option Room :=
  if n ≤ r.steps then some { r with steps := r.steps - n } else none

/-- The room between brackets that are opened here. -/
def inside? : Room → Option Room
  | ⟨0, _⟩ => none
  | ⟨n + 1, steps⟩ => some ⟨n, steps⟩

end Room

end Literal

end ExperimentGroups
