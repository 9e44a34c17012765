import ExperimentGroups.Double.Basic

/-!
# The shortest decimal of a double

A finite double is written with the fewest significant digits that read back as the same double;
among those digits the nearest to its exact value are taken, an exact tie going to the even
coefficient. On the grid of decimals with `n` significant digits only the two neighbours of the
value can be nearest, so only they are tried.

## Main definitions

* `Decimal`: a coefficient and a power of ten
* `Double.shortest`: the shortest decimal of a number of units

## Main results

* `Double.readsBack_neighbour`: a neighbour that is taken reads back
-/

namespace ExperimentGroups

/-- A decimal `coefficient * 10 ^ exponent`. -/
structure Decimal where
  coefficient : Nat
  exponent : Int
  deriving DecidableEq

namespace Decimal

/-- The same decimal without factors of ten in its coefficient; `fuel` bounds the divisions. -/
def strip : Nat → Decimal → Decimal
  | 0, d => d
  | fuel + 1, d =>
    if d.coefficient ≠ 0 ∧ d.coefficient % 10 = 0 then
      strip fuel ⟨d.coefficient / 10, d.exponent + 1⟩
    else d

end Decimal

namespace Double

/-- The exponent of the first significant digit of a positive number of units. Every number of
units is at least `4.9 * 10 ^ (-324)`. -/
def leadingExponent (units : Nat) : Int :=
  (digitCount (units * Nat.pow 10 324 / one) : Int) - 325

/-- Whether a decimal reads back as the positive number of units. -/
def readsBack (units coefficient : Nat) (exponent : Int) : Bool :=
  match ofDecimal false coefficient exponent with
  | .finite false m _ => m == units
  | _ => false

/-- Of the two neighbours of the value on the grid with step `10 ^ exponent`, those that read back;
of two the nearer, of two as near the even one. -/
def neighbour (units : Nat) (exponent : Int) : Option Decimal :=
  let num := if 0 ≤ exponent then units else units * Nat.pow 10 (-exponent).toNat
  let den := if 0 ≤ exponent then one * Nat.pow 10 exponent.toNat else one
  let low := num / den
  match readsBack units low exponent, readsBack units (low + 1) exponent with
  | true, true => some ⟨roundRatio num den, exponent⟩
  | true, false => some ⟨low, exponent⟩
  | false, true => some ⟨low + 1, exponent⟩
  | false, false => none

/-- The exact decimal of a number of units. -/
def exactDecimal (units : Nat) : Decimal := ⟨units * Nat.pow 5 1074, -1074⟩

/-- **The shortest decimal** of a positive number of units: the first grid, by number of digits,
with a neighbour that reads back. -/
def shortest (units : Nat) : Decimal :=
  let first := leadingExponent units
  let found := (List.range 17).findSome? fun (n : Nat) => neighbour units (first - n)
  Decimal.strip 400 (found.getD (exactDecimal units))

/-! ## Reading back -/

theorem roundRatio_eq_or (num den : Nat) :
    roundRatio num den = num / den ∨ roundRatio num den = num / den + 1 := by
  unfold roundRatio
  dsimp only
  repeat' split
  all_goals simp

/-- A neighbour that is taken reads back as the number of units. -/
theorem readsBack_neighbour {units : Nat} {exponent : Int} {d : Decimal}
    (h : neighbour units exponent = some d) : readsBack units d.coefficient d.exponent = true := by
  unfold neighbour at h
  dsimp only at h
  split at h
  · next hl hr =>
    obtain rfl := Option.some.inj h
    dsimp only
    rcases roundRatio_eq_or (if 0 ≤ exponent then units else units * Nat.pow 10 (-exponent).toNat)
      (if 0 ≤ exponent then one * Nat.pow 10 exponent.toNat else one) with e | e
    · rw [e]; exact hl
    · rw [e]; exact hr
  · next hl _ => obtain rfl := Option.some.inj h; exact hl
  · next _ hr => obtain rfl := Option.some.inj h; exact hr
  · cases h

end Double

end ExperimentGroups
