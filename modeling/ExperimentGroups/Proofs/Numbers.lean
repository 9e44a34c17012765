import ExperimentGroups.Json.Printer
import ExperimentGroups.Json.Token
import ExperimentGroups.Proofs.Decimals

/-!
# Numbers in JSON are read back

A finite double is written by its shortest decimal, in one of four forms: with a point in front of
its digits, behind them or between them, or with an exponent. Each form is read as the same decimal.
Integers are read back up to the limit of digits.

## Main definitions

* `Json.afterWhole`: what a number is by its whole part and what follows it

## Main results

* `Json.number?_eq`: a number is taken apart at the end of its whole part
* `Json.number?_decimalText`: a decimal is read as the double nearest to it
* `Json.number?_text`, `Json.number?_integerChars`: finite doubles and integers are read back
* `Json.word?_of_number?`: so they are as words
-/

namespace ExperimentGroups

namespace Json

open Text (isAsciiDigit digitValues naturalChars)

/-! ## The parts of a number -/

/-- **What a number is**, by the values of its whole part and by what follows it. -/
def afterWhole (negative : Bool) (whole : List Nat) : List Char → Option Token
  | [] =>
    let n : Nat := Text.ofDigits whole
    some (.word (.int (if negative then -n else n)))
  | '.' :: rest => do
    let (fraction, rest) := Text.spanDigits rest
    guard (fraction ≠ [])
    let e ← Text.exponent? rest
    pure (.word (.double
      (.ofDecimal negative (Text.ofDigits (whole ++ fraction)) (e - fraction.length))))
  | rest => do
    let e ← Text.exponent? rest
    pure (.word (.double (.ofDecimal negative (Text.ofDigits whole) e)))

/-- The sign of a number. -/
def signChars (negative : Bool) : List Char := if negative then ['-'] else []

theorem number?_sign (limitsDoubles negative : Bool) {c : Char} (hc : isAsciiDigit c = true)
    (cs : List Char) :
    number? limitsDoubles (signChars negative ++ c :: cs) =
      (let (whole, rest) := Text.spanDigits (c :: cs)
      if whole = [] ∨ (whole.head? = some 0 ∧ whole.length ≠ 1) then none
      else if Text.digitLimit < whole.length ∧ (limitsDoubles ∨ !beginsDouble rest) then
        some .excess
      else afterWhole negative whole rest) := by
  have hminus : c ≠ '-' := by
    rintro rfl
    exact absurd hc (by decide)
  cases negative with
  | true => rfl
  | false =>
    show number? limitsDoubles (c :: cs) = _
    unfold number?
    split
    next negative unsigned heq =>
    -- A digit is no sign.
    split at heq
    · next hcs => exact absurd (List.cons.inj hcs).1 hminus
    · obtain ⟨rfl, rfl⟩ := Prod.mk.inj heq
      rfl

/-- **A number is taken apart at the end of its whole part.** -/
theorem number?_eq (limitsDoubles negative : Bool) (whole rest : List Char)
    (hwhole : ∀ c ∈ whole, isAsciiDigit c = true) (hne : whole ≠ [])
    (hzero : (digitValues whole).head? = some 0 → whole.length = 1)
    (hlength : whole.length ≤ Text.digitLimit)
    (hrest : ∀ c ∈ rest.head?, isAsciiDigit c = false) :
    number? limitsDoubles (signChars negative ++ (whole ++ rest)) =
      afterWhole negative (digitValues whole) rest := by
  obtain ⟨c, cs, rfl⟩ := List.exists_cons_of_ne_nil hne
  have hvalues := Text.length_digitValues hwhole
  rw [List.cons_append, number?_sign _ _ (hwhole c List.mem_cons_self), ← List.cons_append,
    Text.spanDigits_append hwhole hrest]
  dsimp only
  rw [if_neg, if_neg]
  · rw [hvalues]
    exact fun h => absurd h.1 (Nat.not_lt.2 hlength)
  · rintro (hnil | ⟨hhead, hone⟩)
    · rw [hnil] at hvalues
      cases hvalues
    · exact hone (hvalues.trans (hzero hhead))

/-- A number with a fraction. -/
theorem number?_fraction (limitsDoubles negative : Bool) (whole fraction rest : List Char) {e : Int}
    (hwhole : ∀ c ∈ whole, isAsciiDigit c = true) (hne : whole ≠ [])
    (hzero : (digitValues whole).head? = some 0 → whole.length = 1)
    (hlength : whole.length ≤ Text.digitLimit)
    (hfraction : ∀ c ∈ fraction, isAsciiDigit c = true) (hne' : fraction ≠ [])
    (hrest : ∀ c ∈ rest.head?, isAsciiDigit c = false) (he : Text.exponent? rest = some e) :
    number? limitsDoubles (signChars negative ++ (whole ++ '.' :: (fraction ++ rest))) =
      some (.word (.double (.ofDecimal negative
        (Text.ofDigits (digitValues (whole ++ fraction))) (e - fraction.length)))) := by
  have hvalues := Text.length_digitValues hfraction
  have hnil : digitValues fraction ≠ [] := by
    intro hnil
    rw [hnil] at hvalues
    exact hne' (List.eq_nil_of_length_eq_zero hvalues.symm)
  rw [number?_eq _ _ _ _ hwhole hne hzero hlength (by rintro c ⟨⟩; rfl), afterWhole,
    Text.spanDigits_append hfraction hrest]
  simp only [hnil, ne_eq, not_false_eq_true, guard_true, he, hvalues, Text.digitValues_append]
  rfl

/-- A number with an exponent and without a fraction. -/
theorem number?_exponent (limitsDoubles negative : Bool) (whole rest : List Char) {e : Int}
    (hwhole : ∀ c ∈ whole, isAsciiDigit c = true) (hne : whole ≠ [])
    (hzero : (digitValues whole).head? = some 0 → whole.length = 1)
    (hlength : whole.length ≤ Text.digitLimit)
    (he : Text.exponent? ('e' :: rest) = some e) :
    number? limitsDoubles (signChars negative ++ (whole ++ 'e' :: rest)) =
      some (.word (.double (.ofDecimal negative (Text.ofDigits (digitValues whole)) e))) := by
  rw [number?_eq _ _ _ _ hwhole hne hzero hlength (by rintro c ⟨⟩; rfl)]
  show (Text.exponent? ('e' :: rest) >>= fun e =>
    pure (Token.word (.double (.ofDecimal negative (Text.ofDigits (digitValues whole)) e)))) = _
  rw [he]
  rfl

/-! ## Integers -/

/-- Only zero begins with a zero. -/
theorem length_naturalChars_of_head?_eq_zero {n : Nat}
    (h : (digitValues (naturalChars n)).head? = some 0) : (naturalChars n).length = 1 := by
  rcases Nat.eq_zero_or_pos n with rfl | hn
  · rfl
  · exact absurd h (Text.head?_digitValues_naturalChars hn)

/-- A whole part without anything behind it is an integer. -/
theorem afterWhole_naturalChars (n : Int) :
    afterWhole (decide (n < 0)) (digitValues (naturalChars n.natAbs)) [] =
      some (.word (.int n)) := by
  rw [afterWhole, Text.ofDigits_naturalChars]
  by_cases hn : n < 0
  · simp only [hn, decide_true, if_true, Option.some.injEq, Token.word.injEq, Json.int.injEq]
    omega
  · simp only [hn, decide_false, Bool.false_eq_true, if_false, Option.some.injEq,
      Token.word.injEq, Json.int.injEq]
    omega

/-- **An integer is read back** up to the limit of digits. -/
theorem number?_integerChars (limitsDoubles : Bool) {n : Int} (h : Text.isWithinDigits n = true) :
    number? limitsDoubles (Text.integerChars n) = some (.word (.int n)) := by
  have hlength : (naturalChars n.natAbs).length ≤ Text.digitLimit :=
    (Text.length_naturalChars_le_digitLimit_iff n).2 h
  have hnumber := number?_eq limitsDoubles (decide (n < 0)) _ []
    (fun c hc => Text.isAsciiDigit_of_mem_naturalChars hc) (Text.naturalChars_ne_nil _)
    length_naturalChars_of_head?_eq_zero hlength (by simp)
  rw [List.append_nil] at hnumber
  have hsign : Text.integerChars n = signChars (decide (n < 0)) ++ naturalChars n.natAbs := by
    simp only [Text.integerChars, signChars, decide_eq_true_eq]
  rw [hsign, hnumber, afterWhole_naturalChars]

/-! ## Doubles -/

section Decimals

variable (limitsDoubles negative : Bool) {d : Decimal}

/-- A decimal with its point in front of the digits. -/
theorem number?_small (n : Nat) (hn : d.exponent = -(n + (naturalChars d.coefficient).length)) :
    number? limitsDoubles (signChars negative ++
        '0' :: '.' :: (List.replicate n '0' ++ naturalChars d.coefficient)) =
      some (.word (.double (.ofDecimal negative d.coefficient d.exponent))) := by
  have hdigits : ∀ c ∈ List.replicate n '0' ++ naturalChars d.coefficient,
      isAsciiDigit c = true := by
    intro c hc
    rcases List.mem_append.1 hc with hc | hc
    · rw [List.eq_of_mem_replicate hc]
      rfl
    · exact Text.isAsciiDigit_of_mem_naturalChars hc
  have hvalue : Text.ofDigits (digitValues (['0'] ++
      (List.replicate n '0' ++ naturalChars d.coefficient))) = d.coefficient := by
    rw [Text.digitValues_append, Text.digitValues_append, Text.digitValues_replicate_zero,
      Text.ofDigits_append, Text.ofDigits_append, Text.ofDigits_replicate_zero,
      Text.ofDigits_naturalChars]
    simp [digitValues, Text.asciiDigit?, Text.ofDigits]
  have hnumber := number?_fraction limitsDoubles negative ['0'] _ []
    (List.all_eq_true.1 rfl) (by decide) (fun _ => rfl) (by decide) hdigits
    (by simp [Text.naturalChars_ne_nil]) (by simp) rfl
  rw [List.append_nil, hvalue, List.length_append, List.length_replicate] at hnumber
  rw [hn]
  simpa using hnumber

/-- A decimal with its point behind the digits. -/
theorem number?_large (hd : 0 < d.coefficient) (n : Nat) (hn : d.exponent = n)
    (hlength : (naturalChars d.coefficient).length + n ≤ Text.digitLimit) :
    number? limitsDoubles (signChars negative ++
        (naturalChars d.coefficient ++ List.replicate n '0' ++ ['.', '0'])) =
      some (.word (.double (.ofDecimal negative d.coefficient d.exponent))) := by
  have hdigits : ∀ c ∈ naturalChars d.coefficient ++ List.replicate n '0',
      isAsciiDigit c = true := by
    intro c hc
    rcases List.mem_append.1 hc with hc | hc
    · exact Text.isAsciiDigit_of_mem_naturalChars hc
    · rw [List.eq_of_mem_replicate hc]
      rfl
  have hzero := Text.head?_digitValues_append hd (List.replicate n '0')
  have hvalue : Text.ofDigits (digitValues
      ((naturalChars d.coefficient ++ List.replicate n '0') ++ ['0'])) =
        d.coefficient * 10 ^ (n + 1) := by
    rw [List.append_assoc, ← List.replicate_succ' (n := n), Text.digitValues_append,
      Text.digitValues_replicate_zero, Text.ofDigits_append, Text.ofDigits_replicate_zero,
      Text.ofDigits_naturalChars, List.length_replicate, Nat.add_zero]
  have hnumber := number?_fraction limitsDoubles negative
    (naturalChars d.coefficient ++ List.replicate n '0') ['0'] [] hdigits
    (by simp [Text.naturalChars_ne_nil]) (fun hhead => absurd hhead hzero)
    (by rwa [List.length_append, List.length_replicate]) (List.all_eq_true.1 rfl) (by decide)
    (by simp) rfl
  have hexponent : (0 : Int) - (['0'] : List Char).length + (n + 1 : Nat) = n := by
    simp
  rw [hvalue, Double.ofDecimal_mul_pow_ten, hexponent] at hnumber
  rw [hn]
  exact hnumber

/-- A decimal with its point between the digits. -/
theorem number?_middle (hd : 0 < d.coefficient) (n m : Nat) (hn : 0 < n) (hm : 0 < m)
    (hlength : (naturalChars d.coefficient).length = n + m) (hm' : d.exponent = -m)
    (hlimit : n ≤ Text.digitLimit) :
    number? limitsDoubles (signChars negative ++
        ((naturalChars d.coefficient).take n ++ '.' :: (naturalChars d.coefficient).drop n)) =
      some (.word (.double (.ofDecimal negative d.coefficient d.exponent))) := by
  have htake : ((naturalChars d.coefficient).take n).length = n := by
    rw [List.length_take]
    omega
  have hdrop : ((naturalChars d.coefficient).drop n).length = m := by
    rw [List.length_drop]
    omega
  have hzero : (digitValues ((naturalChars d.coefficient).take n)).head? ≠ some 0 := by
    intro hhead
    have hall := Text.head?_digitValues_naturalChars hd
    rw [← List.take_append_drop n (naturalChars d.coefficient), Text.digitValues_append,
      List.head?_append, hhead] at hall
    exact hall rfl
  have hnumber := number?_fraction limitsDoubles negative ((naturalChars d.coefficient).take n)
    ((naturalChars d.coefficient).drop n) []
    (fun c hc => Text.isAsciiDigit_of_mem_naturalChars ((List.take_subset n _) hc))
    (List.ne_nil_of_length_pos (by omega)) (fun hhead => absurd hhead hzero) (by omega)
    (fun c hc => Text.isAsciiDigit_of_mem_naturalChars ((List.drop_subset n _) hc))
    (List.ne_nil_of_length_pos (by omega)) (by simp) rfl
  rw [List.append_nil, List.take_append_drop, Text.ofDigits_naturalChars, hdrop] at hnumber
  rw [hm']
  simpa using hnumber

/-- A decimal with an exponent. -/
theorem number?_scaled {c : Char} {cs : List Char}
    (hcs : naturalChars d.coefficient = c :: cs) (e : Int) (he : d.exponent = e - cs.length) :
    number? limitsDoubles (signChars negative ++
        ((match c :: cs with
          | [] => []
          | [c] => [c]
          | c :: cs => c :: '.' :: cs) ++
        'e' :: (if e < 0 then '-' else '+') :: naturalChars e.natAbs)) =
      some (.word (.double (.ofDecimal negative d.coefficient d.exponent))) := by
  have hdigits : ∀ c' ∈ c :: cs, isAsciiDigit c' = true := fun c' hc' =>
    Text.isAsciiDigit_of_mem_naturalChars (hcs ▸ hc')
  have hc : ∀ c' ∈ [c], isAsciiDigit c' = true := by
    simpa using hdigits c List.mem_cons_self
  have hone : [c].length ≤ Text.digitLimit := show 1 ≤ Text.digitLimit by decide
  have hvalue := Text.ofDigits_naturalChars d.coefficient
  rw [hcs] at hvalue
  have hexponent := Text.exponent?_cons e
  cases cs with
  | nil =>
    have hnumber := number?_exponent limitsDoubles negative [c] _ hc (by simp) (fun _ => rfl)
      hone hexponent
    rw [hvalue] at hnumber
    rw [he]
    simpa using hnumber
  | cons c' cs =>
    have hnumber := number?_fraction limitsDoubles negative [c] (c' :: cs) _ hc (by simp)
      (fun _ => rfl) hone (fun a ha => hdigits a (List.mem_cons_of_mem _ ha)) (by simp)
      (by rintro a ⟨⟩; rfl) hexponent
    rw [show [c] ++ c' :: cs = c :: c' :: cs from rfl, hvalue] at hnumber
    rw [he]
    exact hnumber

/-- **A decimal is read as the double nearest to it**, in each of its forms. -/
theorem number?_decimalText (hd : 0 < d.coefficient) :
    number? limitsDoubles (signChars negative ++ Double.Layout.json.decimalText d) =
      some (.word (.double (.ofDecimal negative d.coefficient d.exponent))) := by
  have hpos : 0 < (naturalChars d.coefficient).length := Nat.length_toDigits_pos
  have hlimit : Text.digitLimit = 4300 := rfl
  have hleast : Double.Layout.json.leastInPlace = -5 := rfl
  have hfirst : Double.Layout.json.firstScaled = 16 := rfl
  unfold Double.Layout.decimalText
  dsimp only
  split
  · next hplace =>
    rw [hleast, hfirst] at hplace
    split
    · exact number?_small limitsDoubles negative _ (by omega)
    · split
      · exact number?_large limitsDoubles negative hd _ (by omega) (by omega)
      · exact number?_middle limitsDoubles negative hd _
          ((naturalChars d.coefficient).length -
            (d.exponent + (naturalChars d.coefficient).length - 1 + 1).toNat)
          (by omega) (by omega) (by omega) (by omega) (by omega)
  · obtain ⟨c, cs, hcs⟩ := List.exists_cons_of_ne_nil (Text.naturalChars_ne_nil d.coefficient)
    have hexponent : ∀ n, Double.Layout.json.exponentText n = naturalChars n := by
      intro n
      have hone : 0 < (naturalChars n).length := Nat.length_toDigits_pos
      have hleast : Double.Layout.json.exponentDigits - (naturalChars n).length = 0 := by
        show 1 - _ = 0
        omega
      rw [Double.Layout.exponentText, hleast]
      rfl
    rw [hexponent, hcs]
    exact number?_scaled limitsDoubles negative hcs _ (by rw [List.length_cons]; omega)

end Decimals

/-- The text of a finite double is read back as a number. -/
theorem number?_text (limitsDoubles negative : Bool) (units : Nat) (held : Double.Held units) :
    number? limitsDoubles ((Double.finite negative units held).text .json) =
      some (.word (.double (.finite negative units held))) := by
  show number? limitsDoubles (signChars negative ++ Double.Layout.json.unitsText units) = _
  unfold Double.Layout.unitsText
  split
  · next hzero =>
    subst hzero
    have hnumber := number?_fraction limitsDoubles negative ['0'] ['0'] []
      (List.all_eq_true.1 rfl) (by decide) (fun _ => rfl) (by decide) (List.all_eq_true.1 rfl)
      (by decide) (by simp) rfl
    have hdecimal : ∀ e, Double.ofDecimal negative 0 e = Double.finite negative 0 held := by
      intro e
      rw [← Double.ofRatio_of_held negative held]
      simp [Double.ofDecimal, Double.zero]
    exact hnumber.trans (congrArg (fun x => some (Token.word (.double x))) (hdecimal _))
  · next hpos =>
    have hpos := Nat.pos_of_ne_zero hpos
    rw [number?_decimalText limitsDoubles negative (Double.coefficient_shortest_pos held hpos),
      Double.ofDecimal_shortest negative held hpos]

/-! ## Words -/

/-- What is a number is no name. -/
theorem word?_of_number? {limitsDoubles : Bool} {cs : List Char} {t : Token}
    (h : number? limitsDoubles cs = some t) : word? limitsDoubles cs = some t := by
  unfold word?
  split
  all_goals first | exact h | cases h

theorem ne_nil_of_number? {limitsDoubles : Bool} {cs : List Char} {t : Token}
    (h : number? limitsDoubles cs = some t) : cs ≠ [] := by
  rintro rfl
  cases h

theorem isWordChar_of_isAsciiDigit {c : Char} (h : isAsciiDigit c = true) :
    isWordChar c = true := by
  obtain ⟨hlow, hhigh⟩ := (Text.isAsciiDigit_iff c).1 h
  have hdigit : c.isDigit = true := by
    simp only [Char.isDigit, Bool.and_eq_true, decide_eq_true_eq]
    exact ⟨hlow, hhigh⟩
  simp [isWordChar, Char.isAlphanum, hdigit]

theorem isWordChar_of_mem_naturalChars {n : Nat} {c : Char} (h : c ∈ naturalChars n) :
    isWordChar c = true :=
  isWordChar_of_isAsciiDigit (Text.isAsciiDigit_of_mem_naturalChars h)

theorem isWordChar_of_mem_signChars {negative : Bool} {c : Char} (h : c ∈ signChars negative) :
    isWordChar c = true := by
  cases negative with
  | true =>
    rw [List.mem_singleton.1 h]
    rfl
  | false => cases h

theorem isWordChar_of_mem_replicate {n : Nat} {c : Char} (h : c ∈ List.replicate n '0') :
    isWordChar c = true := by
  rw [List.eq_of_mem_replicate h]
  rfl

theorem isWordChar_of_mem_integerChars {n : Int} {c : Char} (h : c ∈ Text.integerChars n) :
    isWordChar c = true := by
  rcases List.mem_append.1 h with h | h
  · have h : c ∈ signChars (decide (n < 0)) := by simpa [signChars] using h
    exact isWordChar_of_mem_signChars h
  · exact isWordChar_of_mem_naturalChars h

theorem isWordChar_of_mem_exponentText {layout : Double.Layout} {n : Nat} {c : Char}
    (h : c ∈ layout.exponentText n) : isWordChar c = true := by
  rcases List.mem_append.1 h with h | h
  · exact isWordChar_of_mem_replicate h
  · exact isWordChar_of_mem_naturalChars h

theorem isWordChar_of_mem_decimalText {layout : Double.Layout} {d : Decimal} {c : Char}
    (h : c ∈ layout.decimalText d) : isWordChar c = true := by
  unfold Double.Layout.decimalText at h
  dsimp only at h
  split at h
  · split at h
    · simp only [List.mem_cons, List.mem_append] at h
      rcases h with rfl | rfl | h | h
      · rfl
      · rfl
      · exact isWordChar_of_mem_replicate h
      · exact isWordChar_of_mem_naturalChars h
    · split at h
      · simp only [List.mem_append, List.mem_cons, List.not_mem_nil, or_false] at h
        rcases h with (h | h) | rfl | rfl
        · exact isWordChar_of_mem_naturalChars h
        · exact isWordChar_of_mem_replicate h
        · rfl
        · rfl
      · simp only [List.mem_append, List.mem_cons] at h
        rcases h with h | rfl | h
        · exact isWordChar_of_mem_naturalChars (List.take_subset _ _ h)
        · rfl
        · exact isWordChar_of_mem_naturalChars (List.drop_subset _ _ h)
  · simp only [List.mem_append, List.mem_cons] at h
    rcases h with h | rfl | rfl | h
    · have hc : c ∈ naturalChars d.coefficient ∨ c = '.' := by
        split at h
        · cases h
        · next heq =>
          rw [heq]
          exact .inl h
        · next heq =>
          rw [heq]
          simp only [List.mem_cons] at h ⊢
          tauto
      rcases hc with hc | rfl
      · exact isWordChar_of_mem_naturalChars hc
      · rfl
    · rfl
    · split <;> rfl
    · exact isWordChar_of_mem_exponentText h

/-- The text of a finite double is a word. -/
theorem isWordChar_of_mem_text {layout : Double.Layout} {negative : Bool} {units : Nat}
    {held : Double.Held units} {c : Char}
    (h : c ∈ (Double.finite negative units held).text layout) : isWordChar c = true := by
  rcases List.mem_append.1 h with h | h
  · exact isWordChar_of_mem_signChars h
  · unfold Double.Layout.unitsText at h
    split at h
    · simp only [List.mem_cons, List.not_mem_nil, or_false] at h
      rcases h with rfl | rfl | rfl <;> rfl
    · exact isWordChar_of_mem_decimalText h

end Json

end ExperimentGroups
