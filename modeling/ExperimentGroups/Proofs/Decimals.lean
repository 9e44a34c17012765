import ExperimentGroups.Double.Shortest
import ExperimentGroups.Proofs.Digits

/-!
# The shortest decimal reads back

The double nearest to a decimal does not depend on how the decimal is written: factors of ten may
move between the coefficient and the power. So the decimal that a double is written with reads back
as the double, whether it was found among the neighbours or is the exact one.

## Main results

* `Double.ofRatio_mul_right`: rounding does not depend on common factors
* `Double.ofDecimal_mul_ten`: a factor of ten may move into the power
* `Double.ofDecimal_of_positive`: the sign plays no part in rounding
* `Double.ofDecimal_shortest`: the shortest decimal of a double reads back
-/

namespace ExperimentGroups

namespace Double

/-! ## Common factors -/

theorem roundRatio_mul_right (num den : Nat) {k : Nat} (hk : 0 < k) :
    roundRatio (num * k) (den * k) = roundRatio num den := by
  have htwice : 2 * (num * k % (den * k)) = 2 * (num % den) * k := by
    rw [Nat.mul_mod_mul_right, Nat.mul_assoc]
  unfold roundRatio
  simp only [htwice, Nat.mul_div_mul_right _ _ hk, Nat.mul_lt_mul_right hk]

/-- A rounded ratio is known by the number of units that it is rounded to. -/
theorem ofRatio_eq (negative : Bool) {num den units : Nat}
    (h : roundRatio num (den * Nat.pow 2 (excess (num / den))) * Nat.pow 2 (excess (num / den)) =
      units) :
    ofRatio negative num den =
      if hu : Held units then .finite negative units hu else .infinite negative := by
  subst h
  unfold ofRatio
  by_cases hlt : roundRatio num (den * Nat.pow 2 (excess (num / den))) *
      Nat.pow 2 (excess (num / den)) < limit
  · have hheld := held_mul_two_pow (roundRatio_le_two_pow num den) hlt
    simp only [hlt, hheld, dif_pos]
  · have hheld : ¬ Held (roundRatio num (den * Nat.pow 2 (excess (num / den))) *
        Nat.pow 2 (excess (num / den))) := fun h => hlt h.1
    simp only [hlt, hheld, dif_neg, not_false_eq_true]

/-- **Rounding does not depend on common factors.** -/
theorem ofRatio_mul_right (negative : Bool) (num den : Nat) {k : Nat} (hk : 0 < k) :
    ofRatio negative (num * k) (den * k) = ofRatio negative num den := by
  rw [ofRatio_eq negative rfl, ofRatio_eq negative rfl, Nat.mul_div_mul_right _ _ hk,
    Nat.mul_right_comm den k, roundRatio_mul_right _ _ hk]

theorem ofRatio_of_positive {num den units : Nat} {held : Held units}
    (h : ofRatio false num den = .finite false units held) (negative : Bool) :
    ofRatio negative num den = .finite negative units held := by
  rw [ofRatio_eq _ rfl] at h ⊢
  split at h
  · next hu =>
    obtain ⟨-, hunits⟩ := Double.finite.inj h
    subst hunits
    rw [dif_pos hu]
  · cases h

/-! ## Powers of ten -/

theorem digitCount_mul_ten {n : Nat} (h : 0 < n) : digitCount (n * 10) = digitCount n + 1 :=
  Text.length_naturalChars_mul_ten h

/-- **A factor of ten may move into the power.** -/
theorem ofDecimal_mul_ten (negative : Bool) (coefficient : Nat) (exponent : Int) :
    ofDecimal negative (coefficient * 10) exponent =
      ofDecimal negative coefficient (exponent + 1) := by
  rcases Nat.eq_zero_or_pos coefficient with rfl | hpos
  · simp [ofDecimal]
  have hmagnitude : exponent + digitCount (coefficient * 10) =
      exponent + 1 + digitCount coefficient := by
    rw [digitCount_mul_ten hpos]
    omega
  have hzero : coefficient * 10 = 0 ↔ coefficient = 0 := by omega
  unfold ofDecimal
  simp only [hmagnitude, hzero]
  congr 2
  -- The power is negative on both sides, on the left only, or on none.
  rcases Int.lt_trichotomy exponent (-1) with hlt | rfl | hgt
  · obtain ⟨n, hn, hn'⟩ : ∃ n, (-exponent).toNat = n + 1 ∧ (-(exponent + 1)).toNat = n :=
      ⟨(-exponent - 1).toNat, by omega, by omega⟩
    rw [if_neg (by omega), if_neg (by omega), hn, hn', Nat.mul_right_comm]
    exact ofRatio_mul_right negative _ _ (by decide)
  · rw [if_neg (by decide), if_pos (by decide), Nat.mul_right_comm]
    have h := ofRatio_mul_right negative (coefficient * one) 1 (show 0 < 10 by decide)
    rw [Nat.one_mul] at h
    show ofRatio negative (coefficient * one * 10) 10 = ofRatio negative (coefficient * 1 * one) 1
    rw [h, Nat.mul_one]
  · obtain ⟨n, rfl⟩ := Int.eq_ofNat_of_zero_le (show 0 ≤ exponent by omega)
    rw [if_pos (by omega), if_pos (by omega)]
    congr 2
    show coefficient * 10 * Nat.pow 10 n = coefficient * (Nat.pow 10 n * 10)
    rw [Nat.mul_assoc, Nat.mul_comm 10]

theorem ofDecimal_mul_pow_ten (negative : Bool) (coefficient n : Nat) (exponent : Int) :
    ofDecimal negative (coefficient * 10 ^ n) exponent =
      ofDecimal negative coefficient (exponent + n) := by
  induction n generalizing exponent with
  | zero => simp
  | succ n ih =>
    rw [Nat.pow_succ, ← Nat.mul_assoc, ofDecimal_mul_ten, ih]
    congr 1
    omega

theorem ofDecimal_strip (negative : Bool) (fuel : Nat) (d : Decimal) :
    ofDecimal negative (d.strip fuel).coefficient (d.strip fuel).exponent =
      ofDecimal negative d.coefficient d.exponent := by
  induction fuel generalizing d with
  | zero => rfl
  | succ fuel ih =>
    unfold Decimal.strip
    split
    · next h =>
      rw [ih, ← ofDecimal_mul_ten, Nat.div_mul_cancel (Nat.dvd_of_mod_eq_zero h.2)]
    · rfl

/-- **The sign plays no part in rounding.** -/
theorem ofDecimal_of_positive {coefficient units : Nat} {exponent : Int} {held : Held units}
    (h : ofDecimal false coefficient exponent = .finite false units held) (negative : Bool) :
    ofDecimal negative coefficient exponent = .finite negative units held := by
  unfold ofDecimal at h ⊢
  dsimp only at h ⊢
  split
  · next hc =>
    rw [if_pos hc] at h
    exact ofRatio_of_positive h negative
  · next hc =>
    rw [if_neg hc] at h
    split
    · next hc =>
      rw [if_pos hc] at h
      cases h
    · next hc =>
      rw [if_neg hc] at h
      split
      · next hc =>
        rw [if_pos hc] at h
        exact ofRatio_of_positive h negative
      · next hc =>
        rw [if_neg hc] at h
        exact ofRatio_of_positive h negative

/-! ## The decimals of a double -/

theorem ofDecimal_of_readsBack {units coefficient : Nat} {exponent : Int} (held : Held units)
    (h : readsBack units coefficient exponent = true) :
    ofDecimal false coefficient exponent = .finite false units held := by
  unfold readsBack at h
  split at h
  · next m hm heq =>
    obtain rfl := beq_iff_eq.1 h
    exact heq
  · cases h

/-- The exact decimal of a double is well within the range that is computed. -/
theorem digitCount_exactDecimal {units : Nat} (held : Held units) (hpos : 0 < units) :
    674 ≤ digitCount (exactDecimal units).coefficient ∧
      digitCount (exactDecimal units).coefficient ≤ 1474 := by
  have hlow : 10 ^ 673 ≤ Nat.pow 5 1074 := by decide +kernel
  have hhigh : limit * Nat.pow 5 1074 ≤ 10 ^ 1474 := by decide +kernel
  have hfive : 0 < Nat.pow 5 1074 := Nat.lt_of_lt_of_le (Nat.pow_pos (by decide)) hlow
  have hmore : Nat.pow 5 1074 ≤ units * Nat.pow 5 1074 := Nat.le_mul_of_pos_left _ hpos
  have hless : units * Nat.pow 5 1074 < limit * Nat.pow 5 1074 :=
    Nat.mul_lt_mul_of_pos_right held.1 hfive
  refine ⟨Nat.lt_of_not_le fun hle => ?_, ?_⟩
  · have hlt := (Text.length_naturalChars_le_iff (by decide)).1 hle
    exact absurd (Nat.lt_of_le_of_lt (hlow.trans hmore) hlt) (Nat.lt_irrefl _)
  · exact (Text.length_naturalChars_le_iff (by decide)).2 (Nat.lt_of_lt_of_le hless hhigh)

theorem ten_pow_pos (n : Nat) : 0 < Nat.pow 10 n := Nat.pow_pos (by decide)

theorem mul_pow_five_pow_two (n e : Nat) :
    n * Nat.pow 5 e * Nat.pow 2 e = n * Nat.pow 10 e := by
  rw [Nat.mul_assoc]
  exact congrArg (n * ·) (Nat.mul_pow 5 2 e).symm

theorem coefficient_exactDecimal_mul_one (units : Nat) {e : Nat} (he : e = 1074) :
    (exactDecimal units).coefficient * one = units * Nat.pow 10 e := by
  unfold exactDecimal one
  rw [← he]
  exact mul_pow_five_pow_two units e

/-- **The exact decimal reads back.** -/
theorem ofDecimal_exactDecimal {units : Nat} (held : Held units) (hpos : 0 < units) :
    ofDecimal false (exactDecimal units).coefficient (exactDecimal units).exponent =
      .finite false units held := by
  obtain ⟨hlow, hhigh⟩ := digitCount_exactDecimal held hpos
  have hexponent : (exactDecimal units).exponent = -1074 := rfl
  have hcoefficient : (exactDecimal units).coefficient ≠ 0 := by
    intro hzero
    rw [hzero] at hlow
    exact absurd hlow (by decide)
  have hscaled := ofRatio_mul_right false units 1 (ten_pow_pos (-(-1074) : Int).toNat)
  rw [Nat.one_mul, ofRatio_of_held false held] at hscaled
  unfold ofDecimal
  dsimp only
  rw [hexponent, if_neg (by omega), if_neg (by omega), if_neg (by decide),
    coefficient_exactDecimal_mul_one units (e := (-(-1074) : Int).toNat) rfl]
  exact hscaled

/-- The shortest decimal with the factors of ten that its coefficient was found with. -/
def unstripped (units : Nat) : Decimal :=
  ((List.range 17).findSome? fun (n : Nat) => neighbour units (leadingExponent units - n)).getD
    (exactDecimal units)

theorem shortest_eq (units : Nat) : shortest units = (unstripped units).strip 400 := rfl

theorem ofDecimal_unstripped {units : Nat} (held : Held units) (hpos : 0 < units) :
    ofDecimal false (unstripped units).coefficient (unstripped units).exponent =
      .finite false units held := by
  unfold unstripped
  cases hf : (List.range 17).findSome? fun (n : Nat) => neighbour units (leadingExponent units - n)
    with
  | none =>
    rw [Option.getD_none]
    exact ofDecimal_exactDecimal held hpos
  | some d =>
    obtain ⟨n, -, hn⟩ := List.exists_of_findSome?_eq_some hf
    rw [Option.getD_some]
    exact ofDecimal_of_readsBack held (readsBack_neighbour hn)

/-- **The shortest decimal reads back.** -/
theorem ofDecimal_shortest (negative : Bool) {units : Nat} (held : Held units)
    (hpos : 0 < units) :
    ofDecimal negative (shortest units).coefficient (shortest units).exponent =
      .finite negative units held := by
  rw [shortest_eq, ofDecimal_strip]
  exact ofDecimal_of_positive (ofDecimal_unstripped held hpos) negative

/-- The shortest decimal of a positive number is positive. -/
theorem coefficient_shortest_pos {units : Nat} (held : Held units) (hpos : 0 < units) :
    0 < (shortest units).coefficient := by
  by_contra hzero
  have h := ofDecimal_shortest false held hpos
  have hfinite : ofDecimal false 0 (shortest units).exponent = zero false := by simp [ofDecimal]
  rw [Nat.eq_zero_of_not_pos hzero, hfinite, zero,
    ofRatio_of_held false ⟨hpos.trans held.1, Nat.zero_mod _⟩] at h
  obtain ⟨-, hunits⟩ := Double.finite.inj h
  exact absurd hunits.symm (Nat.ne_of_gt hpos)

end Double

end ExperimentGroups
