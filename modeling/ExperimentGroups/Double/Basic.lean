import ExperimentGroups.Text.Digit

/-!
# Doubles

A double is an exact number of the binary interchange format with 64 bits. A finite one is a
sign and a natural number of *units*, the unit being the smallest positive double `2 ^ (-1074)`;
a number of units is held exactly when it needs at most 53 significant bits and stays below
`2 ^ 1024`. The two zeros are told apart, all NaNs are one.

## Main definitions

* `Double.Held`: the numbers of units that a double holds exactly
* `Double`: the type
* `Double.ofRatio`: the double nearest to a ratio of units, a tie going to the even neighbour
* `Double.ofInt`, `Double.ofDecimal`: the doubles nearest to an integer and to a decimal
* `Double.toInt?`: the integer that a double is
* `Double.sameNumber`: equality of numbers (a NaN equals nothing, the zeros are equal)

## Main results

* `Double.held_mul_two_pow`: at most 53 bits, shifted, are held
* `Double.ofRatio_of_held`: a held number of units is rounded to itself
-/

namespace ExperimentGroups

namespace Double

/-- How many units make one. -/
def one : Nat := Nat.pow 2 1074

/-- The first power of two that is too large: `2 ^ 1024`, in units. -/
def limit : Nat := Nat.pow 2 2098

/-- How many bits a number has beyond the 53 that a double keeps. -/
def excess (n : Nat) : Nat := n.log2 + 1 - 53

/-- **The numbers of units that a double holds**: below the limit, and nothing set in the excess
bits. -/
def Held (units : Nat) : Prop := units < limit ∧ units % Nat.pow 2 (excess units) = 0

instance (units : Nat) : Decidable (Held units) := inferInstanceAs (Decidable (_ ∧ _))

end Double

/-- **A double**: not a number, an infinity, or a sign with a number of units. -/
inductive Double where
  | nan
  | infinite (negative : Bool)
  | finite (negative : Bool) (units : Nat) (held : Double.Held units)
  deriving DecidableEq

namespace Double

/-! ## Rounding -/

/-- The natural number nearest to `num / den`; a half goes to the even neighbour. -/
def roundRatio (num den : Nat) : Nat :=
  let whole := num / den
  let twice := 2 * (num % den)
  if twice < den then whole
  else if den < twice then whole + 1
  else if whole % 2 = 0 then whole else whole + 1

theorem roundRatio_le (num den : Nat) : roundRatio num den ≤ num / den + 1 := by
  unfold roundRatio
  dsimp only
  split
  · omega
  · split
    · omega
    · split <;> omega

theorem pow_add_exponents (b m n : Nat) : Nat.pow b (m + n) = Nat.pow b m * Nat.pow b n :=
  Nat.pow_add b m n

theorem two_pow_pos (s : Nat) : 0 < Nat.pow 2 s := Nat.two_pow_pos s

theorem excess_le {n s : Nat} (h : n < Nat.pow 2 (s + 53)) : excess n ≤ s := by
  unfold excess
  by_cases h0 : n = 0
  · subst h0
    simp
  · have := (Nat.log2_lt h0).2 h
    omega

theorem held_mul_two_pow {m s : Nat} (hm : m ≤ Nat.pow 2 53) (h : m * Nat.pow 2 s < limit) :
    Held (m * Nat.pow 2 s) := by
  refine ⟨h, Nat.mod_eq_zero_of_dvd ?_⟩
  by_cases hm' : m < Nat.pow 2 53
  · have hlt : m * Nat.pow 2 s < Nat.pow 2 (s + 53) := by
      rw [pow_add_exponents, Nat.mul_comm (Nat.pow 2 s)]
      exact Nat.mul_lt_mul_of_pos_right hm' (two_pow_pos s)
    exact Nat.dvd_trans (Nat.pow_dvd_pow 2 (excess_le hlt)) (Nat.dvd_mul_left _ _)
  · have hm'' : m = Nat.pow 2 53 := Nat.le_antisymm hm (Nat.le_of_not_lt hm')
    subst hm''
    have hlt : Nat.pow 2 (53 + s) < Nat.pow 2 ((s + 53) + 53) :=
      Nat.pow_lt_pow_right (by decide) (by omega)
    rw [← pow_add_exponents]
    exact Nat.pow_dvd_pow 2 (Nat.le_trans (excess_le hlt) (by omega))

theorem roundRatio_le_two_pow (num den : Nat) :
    roundRatio num (den * Nat.pow 2 (excess (num / den))) ≤ Nat.pow 2 53 := by
  refine Nat.le_trans (roundRatio_le _ _) (Nat.succ_le_of_lt ?_)
  rw [← Nat.div_div_eq_div_mul]
  rw [Nat.div_lt_iff_lt_mul (two_pow_pos _), ← pow_add_exponents]
  by_cases h0 : num / den = 0
  · rw [h0]
    exact two_pow_pos _
  · refine (Nat.log2_lt h0).1 ?_
    unfold excess
    omega

/-- The double nearest to `num / den` units, a tie going to the even neighbour; beyond the limit an
infinity. -/
def ofRatio (negative : Bool) (num den : Nat) : Double :=
  let s := excess (num / den)
  let m := roundRatio num (den * Nat.pow 2 s)
  if h : m * Nat.pow 2 s < limit then
    .finite negative (m * Nat.pow 2 s) (held_mul_two_pow (roundRatio_le_two_pow num den) h)
  else .infinite negative

theorem roundRatio_mul_self (m den : Nat) (h : 0 < den) : roundRatio (m * den) den = m := by
  unfold roundRatio
  simp [Nat.mul_div_cancel _ h, h]

/-- A number of units that a double holds is rounded to itself. -/
theorem ofRatio_of_held (negative : Bool) {units : Nat} (h : Held units) :
    ofRatio negative units 1 = .finite negative units h := by
  have hd : units / Nat.pow 2 (excess units) * Nat.pow 2 (excess units) = units :=
    Nat.div_mul_cancel (Nat.dvd_of_mod_eq_zero h.2)
  have hr : roundRatio units (1 * Nat.pow 2 (excess (units / 1))) =
      units / Nat.pow 2 (excess units) := by
    rw [Nat.div_one, Nat.one_mul]
    have := roundRatio_mul_self (units / Nat.pow 2 (excess units)) _ (two_pow_pos (excess units))
    rwa [hd] at this
  have hu : roundRatio units (1 * Nat.pow 2 (excess (units / 1))) *
      Nat.pow 2 (excess (units / 1)) = units := by
    rw [hr, Nat.div_one, hd]
  unfold ofRatio
  simp only [hu, h.1, dif_pos]

/-! ## From integers and decimals -/

/-- Zero, with its sign. -/
def zero (negative : Bool) : Double := ofRatio negative 0 1

/-- The double nearest to an integer. -/
def ofInt (n : Int) : Double := ofRatio (n < 0) (n.natAbs * one) 1

/-- How many decimal digits a positive number has. -/
def digitCount (n : Nat) : Nat := (Text.naturalChars n).length

/-- **The double nearest to a decimal** `coefficient * 10 ^ exponent`. A decimal that is far outside
the range of doubles is not computed. -/
def ofDecimal (negative : Bool) (coefficient : Nat) (exponent : Int) : Double :=
  let magnitude := exponent + digitCount coefficient
  if coefficient = 0 ∨ magnitude < -400 then zero negative
  else if 400 < magnitude then .infinite negative
  else if 0 ≤ exponent then ofRatio negative (coefficient * Nat.pow 10 exponent.toNat * one) 1
  else ofRatio negative (coefficient * one) (Nat.pow 10 (-exponent).toNat)

/-! ## Queries -/

/-- Whether the double is a number and not an infinity. -/
def isFinite : Double → Bool
  | .finite .. => true
  | _ => false

/-- Whether a double is at most one; a NaN is not. -/
def atMostOne : Double → Bool
  | .nan => false
  | .infinite negative => negative
  | .finite negative units _ => negative || units ≤ one

/-- Whether a double is at least zero; a NaN is not. -/
def atLeastZero : Double → Bool
  | .nan => false
  | .infinite negative => !negative
  | .finite negative units _ => !negative || units == 0

/-- The integer that a finite double is, if it has no fraction. -/
def toInt? : Double → Option Int
  | .finite negative units _ =>
    if units % one = 0 then
      some (if negative then -((units / one : Nat) : Int) else ((units / one : Nat) : Int))
    else none
  | _ => none

/-- **Equality of numbers**: a NaN equals nothing, and the two zeros are equal. -/
def sameNumber : Double → Double → Bool
  | .infinite s, .infinite t => s == t
  | .finite s m _, .finite t n _ => m == n && (s == t || m == 0)
  | _, _ => false

/-- Whether a double is exactly an integer. -/
def sameAsInt (x : Double) (n : Int) : Bool := x.toInt? == some n

end Double

end ExperimentGroups
