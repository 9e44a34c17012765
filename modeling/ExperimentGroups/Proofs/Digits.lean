import ExperimentGroups.Double.Basic
import Mathlib.Tactic.Ring

/-!
# Digits that are read back

The decimal digits of a natural number are read back as the number, whatever follows them, and so is
an exponent. How many digits a number has says how large it is.

## Main definitions

* `Text.digitValues`: the values of digits

## Main results

* `span_append`: where a start of one kind ends
* `Text.spanDigits_append`: digits in front of something else
* `Text.ofDigits_naturalChars`: the digits of a number are those of the number
* `Text.exponent?_cons`: an exponent is read back
* `Text.length_naturalChars_le_iff`: how many digits a number has
-/

namespace ExperimentGroups

/-- **A start of one kind ends where another kind begins.** -/
theorem span_append {α : Type} {p : α → Bool} {l rest : List α} (h : ∀ a ∈ l, p a = true)
    (hrest : ∀ a ∈ rest.head?, p a = false) :
    (l ++ rest).takeWhile p = l ∧ (l ++ rest).dropWhile p = rest := by
  rw [List.takeWhile_append_of_pos h, List.dropWhile_append_of_pos h]
  cases rest with
  | nil => exact ⟨List.append_nil l, rfl⟩
  | cons a rest =>
    have ha : ¬ p a = true := by simp [hrest a rfl]
    rw [List.takeWhile_cons_of_neg ha, List.dropWhile_cons_of_neg ha, List.append_nil]
    exact ⟨rfl, rfl⟩

namespace Text

/-! ## Digit characters -/

/-- The values of digits. -/
def digitValues (cs : List Char) : List Nat := cs.filterMap asciiDigit?

theorem asciiDigit?_digitChar : ∀ {d : Nat}, d < 10 → asciiDigit? (Nat.digitChar d) = some d := by
  decide

theorem isAsciiDigit_iff (c : Char) : isAsciiDigit c = true ↔ '0' ≤ c ∧ c ≤ '9' := by
  unfold isAsciiDigit asciiDigit?
  split <;> simp_all

theorem isAsciiDigit_of_mem_naturalChars {n : Nat} {c : Char} (h : c ∈ naturalChars n) :
    isAsciiDigit c = true := by
  have hdigit := Nat.isDigit_of_mem_toDigits (by decide) (by decide) h
  rw [isAsciiDigit_iff]
  simp only [Char.isDigit, Bool.and_eq_true, decide_eq_true_eq] at hdigit
  exact hdigit

theorem naturalChars_ne_nil (n : Nat) : naturalChars n ≠ [] := Nat.toDigits_ne_nil

theorem length_digitValues {cs : List Char} (h : ∀ c ∈ cs, isAsciiDigit c = true) :
    (digitValues cs).length = cs.length := by
  induction cs with
  | nil => rfl
  | cons c cs ih =>
    obtain ⟨d, hd⟩ := Option.isSome_iff_exists.1 (h c List.mem_cons_self)
    have hrest := ih fun c hc => h c (List.mem_cons_of_mem _ hc)
    rw [digitValues, List.filterMap_cons_some hd, List.length_cons, List.length_cons]
    exact congrArg (· + 1) hrest

theorem digitValues_append (cs cs' : List Char) :
    digitValues (cs ++ cs') = digitValues cs ++ digitValues cs' :=
  List.filterMap_append

theorem digitValues_replicate_zero (n : Nat) :
    digitValues (List.replicate n '0') = List.replicate n 0 := by
  induction n with
  | zero => rfl
  | succ n ih =>
    rw [List.replicate_succ, List.replicate_succ, ← ih]
    rfl

/-- **Digits in front of something else** are taken off. -/
theorem spanDigits_append {cs rest : List Char} (h : ∀ c ∈ cs, isAsciiDigit c = true)
    (hrest : ∀ c ∈ rest.head?, isAsciiDigit c = false) :
    spanDigits (cs ++ rest) = (digitValues cs, rest) := by
  obtain ⟨htake, hdrop⟩ := span_append h hrest
  rw [spanDigits, htake, hdrop]
  rfl

/-! ## Numbers -/

theorem foldl_digits (n : Nat) (ds : List Nat) :
    ds.foldl (fun n d => n * 10 + d) n = n * 10 ^ ds.length + ofDigits ds := by
  induction ds generalizing n with
  | nil => simp [ofDigits]
  | cons d ds ih =>
    rw [ofDigits, List.foldl_cons, List.foldl_cons, ih, ih (0 * 10 + d), List.length_cons,
      Nat.pow_succ]
    ring

theorem ofDigits_append (ds es : List Nat) :
    ofDigits (ds ++ es) = ofDigits ds * 10 ^ es.length + ofDigits es := by
  rw [ofDigits, List.foldl_append, foldl_digits]
  rfl

theorem ofDigits_replicate_zero (n : Nat) : ofDigits (List.replicate n 0) = 0 := by
  induction n with
  | zero => rfl
  | succ n ih =>
    rw [List.replicate_succ', ofDigits_append, ih]
    rfl

theorem ofDigits_lt {ds : List Nat} (h : ∀ d ∈ ds, d < 10) : ofDigits ds < 10 ^ ds.length := by
  induction ds with
  | nil => exact Nat.one_pos
  | cons d ds ih =>
    have hrest := ih fun e he => h e (List.mem_cons_of_mem d he)
    have hsplit : ofDigits (d :: ds) = d * 10 ^ ds.length + ofDigits ds := by
      simpa [ofDigits] using foldl_digits d ds
    calc ofDigits (d :: ds) = d * 10 ^ ds.length + ofDigits ds := hsplit
      _ < d * 10 ^ ds.length + 10 ^ ds.length := Nat.add_lt_add_left hrest _
      _ = (d + 1) * 10 ^ ds.length := (Nat.succ_mul d _).symm
      _ ≤ 10 * 10 ^ ds.length := Nat.mul_le_mul_right _ (h d List.mem_cons_self)
      _ = 10 ^ (d :: ds).length := by rw [List.length_cons, Nat.pow_succ, Nat.mul_comm]

theorem lt_ten_of_mem_spanDigits {cs : List Char} {d : Nat} (h : d ∈ (spanDigits cs).1) :
    d < 10 := by
  obtain ⟨c, -, hc⟩ := List.mem_filterMap.1 h
  unfold asciiDigit? at hc
  split at hc
  · next hrange =>
    have hhigh : c.toNat ≤ 57 := hrange.2
    cases hc
    omega
  · cases hc

/-- The digits of a number from ten on are those of its tenth and one more. -/
theorem naturalChars_of_le {n : Nat} (h : 10 ≤ n) :
    naturalChars n = naturalChars (n / 10) ++ [Nat.digitChar (n % 10)] :=
  Nat.toDigits_of_base_le (by decide) h

theorem naturalChars_of_lt {n : Nat} (h : n < 10) : naturalChars n = [Nat.digitChar n] :=
  Nat.toDigits_of_lt_base h

theorem digitValues_digitChar {d : Nat} (h : d < 10) : digitValues [Nat.digitChar d] = [d] := by
  rw [digitValues, List.filterMap_cons_some (asciiDigit?_digitChar h)]
  rfl

/-- **The digits of a number** are those of the number. -/
theorem ofDigits_naturalChars (n : Nat) : ofDigits (digitValues (naturalChars n)) = n := by
  induction n using Nat.strongRecOn with
  | ind n ih =>
    by_cases h : n < 10
    · rw [naturalChars_of_lt h, digitValues_digitChar h]
      simp [ofDigits]
    · have hdiv : n / 10 < n := by omega
      have hmod : n % 10 < 10 := by omega
      rw [naturalChars_of_le (by omega), digitValues_append, ofDigits_append, ih _ hdiv,
        digitValues_digitChar hmod]
      simp only [ofDigits, List.foldl_cons, List.foldl_nil, List.length_singleton]
      omega

theorem digitValues_naturalChars_ne_nil (n : Nat) : digitValues (naturalChars n) ≠ [] := by
  intro hnil
  have hlength := length_digitValues fun c hc => isAsciiDigit_of_mem_naturalChars (n := n) hc
  rw [hnil] at hlength
  exact naturalChars_ne_nil n (List.eq_nil_of_length_eq_zero hlength.symm)

/-- A positive number has no zero in front. -/
theorem head?_digitValues_naturalChars {n : Nat} (h : 0 < n) :
    (digitValues (naturalChars n)).head? ≠ some 0 := by
  induction n using Nat.strongRecOn with
  | ind n ih =>
    by_cases hn : n < 10
    · rw [naturalChars_of_lt hn, digitValues_digitChar hn]
      simpa using Nat.ne_of_gt h
    · have hhead := ih (n / 10) (by omega) (by omega)
      rw [naturalChars_of_le (by omega), digitValues_append]
      cases hds : digitValues (naturalChars (n / 10)) with
      | nil => exact absurd hds (digitValues_naturalChars_ne_nil _)
      | cons d ds =>
        rw [hds] at hhead
        exact hhead

theorem head?_digitValues_append {n : Nat} (h : 0 < n) (cs : List Char) :
    (digitValues (naturalChars n ++ cs)).head? ≠ some 0 := by
  have hhead := head?_digitValues_naturalChars h
  obtain ⟨d, ds, hds⟩ := List.exists_cons_of_ne_nil (digitValues_naturalChars_ne_nil n)
  rw [digitValues_append, hds]
  rw [hds] at hhead
  exact hhead

/-- **How many digits a number has.** -/
theorem length_naturalChars_le_iff {n k : Nat} (h : 0 < k) :
    (naturalChars n).length ≤ k ↔ n < 10 ^ k :=
  Nat.length_toDigits_le_iff (by decide) h

theorem length_naturalChars_le_digitLimit_iff (n : Int) :
    (naturalChars n.natAbs).length ≤ digitLimit ↔ isWithinDigits n = true := by
  rw [length_naturalChars_le_iff (by decide), isWithinDigits, decide_eq_true_iff, Nat.pow_eq]

theorem isWithinDigits_of_lt {n : Int} {k : Nat} (h : n.natAbs < 10 ^ k) (hk : k ≤ digitLimit) :
    isWithinDigits n = true := by
  have hpow : ∀ limit, k ≤ limit → 10 ^ k ≤ Nat.pow 10 limit :=
    fun _ hlimit => Nat.pow_le_pow_right (Nat.succ_pos 9) hlimit
  exact decide_eq_true (h.trans_le (hpow digitLimit hk))

theorem length_naturalChars_mul_ten {n : Nat} (h : 0 < n) :
    (naturalChars (n * 10)).length = (naturalChars n).length + 1 := by
  rw [naturalChars_of_le (by omega), Nat.mul_div_cancel _ (by decide), List.length_append,
    List.length_singleton]

/-! ## Exponents -/

/-- **An exponent is read back.** -/
theorem exponent?_cons (n : Int) :
    exponent? ('e' :: (if n < 0 then '-' else '+') :: naturalChars n.natAbs) = some n := by
  have hspan : spanDigits (naturalChars n.natAbs) =
      (digitValues (naturalChars n.natAbs), []) := by
    have hdigits : ∀ c ∈ naturalChars n.natAbs, isAsciiDigit c = true :=
      fun c hc => isAsciiDigit_of_mem_naturalChars hc
    have h := spanDigits_append hdigits (fun c (hc : c ∈ [].head?) => nomatch hc)
    rwa [List.append_nil] at h
  obtain ⟨d, ds, hds⟩ := List.exists_cons_of_ne_nil (digitValues_naturalChars_ne_nil n.natAbs)
  have hvalue := ofDigits_naturalChars n.natAbs
  rw [hds] at hspan hvalue
  by_cases hn : n < 0
  · simp only [exponent?, hn, if_true, splitSign, hspan, hvalue, true_or]
    congr 1
    omega
  · simp only [exponent?, hn, if_true, if_false, splitSign, hspan, hvalue, true_or,
      Bool.false_eq_true]
    congr 1
    omega

end Text

end ExperimentGroups
