import ExperimentGroups.Double.Shortest

/-!
# Layouts of a double

A layout says how the shortest digits of a double become text: between which powers of ten they
are written in place, and how an exponent is written.

## Main definitions

* `Double.Layout`: the decisions
* `Double.Layout.display`: exponents below `-4` and from `16` on have at least two digits
* `Double.Layout.json`: exponents below `-5` and from `16` on have no padding
* `Double.text`: the text of a double in a layout
-/

namespace ExperimentGroups

namespace Double

/-- **The decisions of a layout.** -/
structure Layout where
  /-- The least power of ten whose digits are written in place. -/
  leastInPlace : Int
  /-- The first power of ten whose digits are no longer written in place. -/
  firstScaled : Int
  /-- The least number of digits of an exponent. -/
  exponentDigits : Nat

/-- For a reader's eye: `0.0001` and `1e+16`, `1e-05`. -/
def Layout.display : Layout := ⟨-4, 16, 2⟩

/-- For interchange: `0.00001` and `1e+16`, `1e-6`. -/
def Layout.json : Layout := ⟨-5, 16, 1⟩

/-- The digits of an exponent, with zeros in front up to the least number. -/
def Layout.exponentText (layout : Layout) (n : Nat) : List Char :=
  let ds := Text.naturalChars n
  List.replicate (layout.exponentDigits - ds.length) '0' ++ ds

/-- The text of a positive decimal whose coefficient has no factor of ten. In place there is always
a point with a digit on each side; scaled, the point stands only between digits. -/
def Layout.decimalText (layout : Layout) (d : Decimal) : List Char :=
  let ds := Text.naturalChars d.coefficient
  let e := d.exponent + ds.length - 1
  if layout.leastInPlace ≤ e ∧ e < layout.firstScaled then
    if e < 0 then '0' :: '.' :: (List.replicate (-e - 1).toNat '0' ++ ds)
    else if 0 ≤ d.exponent then ds ++ List.replicate d.exponent.toNat '0' ++ ['.', '0']
    else ds.take (e + 1).toNat ++ '.' :: ds.drop (e + 1).toNat
  else
    let mantissa := match ds with
      | [] => []
      | [c] => [c]
      | c :: cs => c :: '.' :: cs
    mantissa ++ 'e' :: (if e < 0 then '-' else '+') :: layout.exponentText e.natAbs

/-- The text of a number of units. -/
def Layout.unitsText (layout : Layout) (units : Nat) : List Char :=
  if units = 0 then ['0', '.', '0'] else layout.decimalText (shortest units)

/-- **The text of a double.** -/
def text (layout : Layout) : Double → List Char
  | .nan => ['n', 'a', 'n']
  | .infinite negative => (if negative then ['-'] else []) ++ ['i', 'n', 'f']
  | .finite negative units _ => (if negative then ['-'] else []) ++ layout.unitsText units

end Double

end ExperimentGroups
