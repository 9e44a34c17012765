import ExperimentGroups.Console.Cell

/-!
# Clusters of characters

Some characters are drawn as one: a character with the marks, joined characters and selectors behind
it. A text is cut between clusters only.

## Main definitions

* `Cluster`, `Cluster.ofText`: the clusters of a text, each with its cells
* `Cluster.crop`, `Cluster.fit`: the start of a text that fills some cells, and that fits in them
-/

namespace ExperimentGroups

/-- **Characters that are drawn as one**, with their cells. -/
structure Cluster where
  chars : List Char
  cells : Nat
  deriving DecidableEq

namespace Cluster

/-- Some clusters, the last first, of which the last one has some more characters and cells. Where
there is no cluster, they are one. -/
def extend (cs : List Char) (cells : Nat) : List Cluster → List Cluster
  | [] => [⟨cs, cells⟩]
  | k :: ks => ⟨k.chars ++ cs, k.cells + cells⟩ :: ks

/-- The clusters of a text behind other ones, all with the last first. The last character with cells
is given, if there is one that a selector can change. A joiner that begins a text joins nothing. -/
def addAll (done : List Cluster) (last : Option Char) : List Char → List Cluster
  | [] => done
  | [c] =>
    if c = Cell.selector then extend [c] (Cell.added last) done
    else if Cell.ofChar c = 0 then extend [c] 0 done
    else ⟨[c], Cell.ofChar c⟩ :: done
  | c :: d :: cs =>
    if c = Cell.joiner ∧ done ≠ [] then addAll (extend [c, d] 0 done) last cs
    else if c = Cell.selector then
      addAll (extend [c] (Cell.added last) done) (if last.any Cell.isPicture then none else last)
        (d :: cs)
    else if Cell.ofChar c = 0 then addAll (extend [c] 0 done) last (d :: cs)
    else addAll (⟨[c], Cell.ofChar c⟩ :: done) (some c) (d :: cs)

/-- **The clusters of a text.** -/
def ofText (cs : List Char) : List Cluster := (addAll [] none cs).reverse

/-! ## Cutting -/

/-- The first clusters that fill some cells; a blank stands for half of a wide one. -/
def take : Nat → List Cluster → List Char
  | 0, _ => []
  | _, [] => []
  | width, k :: ks => if k.cells ≤ width then k.chars ++ take (width - k.cells) ks else [' ']

/-- **The start of a text that fills some cells**, where the text has more of them. -/
def crop (width : Nat) (cs : List Char) : List Char := take width (ofText cs)

/-- **The start of a text that fits in some cells.** -/
def fit (width : Nat) (cs : List Char) : List Char :=
  if Cell.count cs ≤ width then cs else crop width cs

end Cluster

end ExperimentGroups
