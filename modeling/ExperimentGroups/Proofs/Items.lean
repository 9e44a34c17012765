import ExperimentGroups.Override.Basic
import ExperimentGroups.Override.Item
import ExperimentGroups.Proofs.Digits
import ExperimentGroups.Proofs.Termination
import ExperimentGroups.Proofs.Reply

/-!
# Items of pins

An integer is read back from its decimal text. The item of a pin is made of its name and this text,
and there are names that cannot be told from the rest of an item. What is read of items are pins in
some order, but rules only look pins up.

## Main definitions

* `Override.IsItemName`: names that are read back from an item
* `Override.item`: the item of a pin

## Main results

* `Text.integer?_integerChars`: an integer is read back
* `Override.hookOf_plan_congr`: pins that are looked up alike make the same hook
-/

namespace ExperimentGroups

/-! ## Integers -/

namespace Text

/-- A text that neither begins nor ends in a class keeps all its characters. -/
theorem trim_eq_self {p : Char → Bool} {cs : List Char}
    (hfirst : ∀ c, cs.head? = some c → p c = false)
    (hlast : ∀ c, cs.getLast? = some c → p c = false) : trim p cs = cs := by
  have h := @trim_append p [] cs [] (by simp) (by simp) hfirst hlast
  simpa using h

theorem isBlankOrSeparator_of_isAsciiDigit {c : Char} (h : isAsciiDigit c = true) :
    isBlankOrSeparator c = false := by
  obtain ⟨hlow, hhigh⟩ := (isAsciiDigit_iff c).1 h
  have hlow : 48 ≤ c.toNat := hlow
  have hhigh : c.toNat ≤ 57 := hhigh
  simp [isBlankOrSeparator, isBlank]
  omega

theorem isBlankOrSeparator_of_mem_integerChars {n : Int} {c : Char} (h : c ∈ integerChars n) :
    isBlankOrSeparator c = false := by
  rcases List.mem_append.1 h with hsign | hdigit
  · split at hsign
    · rw [List.mem_singleton.1 hsign]
      rfl
    · cases hsign
  · exact isBlankOrSeparator_of_isAsciiDigit (isAsciiDigit_of_mem_naturalChars hdigit)

/-- Digits without underscores between them. -/
theorem groupedDigits?_of_digits {cs : List Char} (hne : cs ≠ [])
    (h : ∀ c ∈ cs, isAsciiDigit c = true) :
    groupedDigits? scriptDigit? cs = some (digitValues cs) := by
  induction cs with
  | nil => exact absurd rfl hne
  | cons c cs ih =>
    rw [List.forall_mem_cons] at h
    obtain ⟨d, hd⟩ := Option.isSome_iff_exists.1 h.1
    have hscript := scriptDigit?_of_asciiDigit? hd
    rw [digitValues, List.filterMap_cons_some hd]
    cases cs with
    | nil => simp [groupedDigits?, hscript]
    | cons c' cs =>
      have hrest := ih (List.cons_ne_nil c' cs) h.2
      -- A digit is no underscore.
      have hunderscore : c' ≠ '_' := by
        rintro rfl
        exact absurd (h.2 '_' List.mem_cons_self) (by decide)
      rw [groupedDigits?]
      · simp [hscript, hrest]
        rfl
      · simp
      · intro rest heq
        exact hunderscore (List.cons.inj heq).1

theorem splitSign_naturalChars (n : Nat) : splitSign (naturalChars n) = (false, naturalChars n) := by
  have hdigits : ∀ c ∈ naturalChars n, isAsciiDigit c = true :=
    fun c hc => isAsciiDigit_of_mem_naturalChars hc
  cases hcs : naturalChars n with
  | nil => rfl
  | cons c cs =>
    have hc := hdigits c (hcs ▸ List.mem_cons_self)
    unfold splitSign
    split
    · next heq =>
      cases heq
      exact absurd hc (by decide)
    · next heq =>
      cases heq
      exact absurd hc (by decide)
    · rfl

/-- **An integer is read back** from its text. -/
theorem integer?_integerChars {n : Int} (h : isWithinDigits n = true) :
    integer? (integerChars n) = some n := by
  have hdigits : ∀ c ∈ naturalChars n.natAbs, isAsciiDigit c = true :=
    fun c hc => isAsciiDigit_of_mem_naturalChars hc
  have htrim : trim isBlankOrSeparator (integerChars n) = integerChars n :=
    trim_eq_self
      (fun c hc => isBlankOrSeparator_of_mem_integerChars (List.mem_of_head? hc))
      (fun c hc => isBlankOrSeparator_of_mem_integerChars (List.mem_of_getLast? hc))
  have hsign : splitSign (integerChars n) = (decide (n < 0), naturalChars n.natAbs) := by
    by_cases hn : n < 0
    · simp [integerChars, hn, splitSign]
    · simp [integerChars, hn, splitSign_naturalChars]
  have hlength : ¬ digitLimit < (digitValues (naturalChars n.natAbs)).length := by
    rw [length_digitValues hdigits, not_lt, length_naturalChars_le_digitLimit_iff]
    exact h
  simp only [integer?, htrim, hsign, groupedDigits?_of_digits (naturalChars_ne_nil _) hdigits,
    if_neg hlength, ofDigits_naturalChars, Option.some.injEq, decide_eq_true_eq]
  split <;> omega

end Text

/-! ## Items -/

theorem Dict.isEmpty_iff {α : Type} (d : Dict α) : d.isEmpty = true ↔ ∀ name, d.get? name = none := by
  rw [isEmpty, List.isEmpty_iff, ← List.map_eq_nil_iff, List.eq_nil_iff_forall_not_mem]
  exact forall_congr' fun name => (d.get?_eq_none_iff name).symm

namespace Override

/-- **A name that is read back from an item**: it is not empty, holds no equals sign, and neither
begins nor ends in a blank. -/
structure IsItemName (name : String) : Prop where
  ne_empty : name ≠ ""
  not_mem : '=' ∉ name.toList
  first : ∀ c, name.toList.head? = some c → Text.isBlankOrSeparator c = false
  last : ∀ c, name.toList.getLast? = some c → Text.isBlankOrSeparator c = false

theorem isItemName_iff {name : String} : IsItemName name ↔
    name ≠ "" ∧ '=' ∉ name.toList ∧ name.toList.head?.any Text.isBlankOrSeparator = false ∧
      name.toList.getLast?.any Text.isBlankOrSeparator = false := by
  simp only [Option.any_eq_false]
  constructor
  · rintro ⟨h, hmem, hfirst, hlast⟩
    exact ⟨h, hmem, hfirst, hlast⟩
  · rintro ⟨h, hmem, hfirst, hlast⟩
    exact ⟨h, hmem, hfirst, hlast⟩

instance (name : String) : Decidable (IsItemName name) := decidable_of_iff' _ isItemName_iff

/-- **The item of a pin.** -/
def item (pin : String × Int) : String := pin.1 ++ "=" ++ Text.integerText pin.2

/-- **Pins that are looked up alike** make the same hook, with the same hold-out. -/
theorem hookOf_plan_congr {pins pins' : Dict Int} (h : ∀ name, pins.get? name = pins'.get? name)
    (holdoutTest : Option String) (holdoutValue : Int) :
    hookOf (Override.plan holdoutTest holdoutValue pins) =
      hookOf (Override.plan holdoutTest holdoutValue pins') := by
  -- A rule looks pins up, and the plan only asks whether there are any.
  have hhook : hook (.pin pins) = hook (.pin pins') := by
    funext s test bucket
    simp only [hook, pinned, h]
  have hempty : pins.isEmpty = pins'.isEmpty := by
    rw [Bool.eq_iff_iff, Dict.isEmpty_iff, Dict.isEmpty_iff]
    simp only [h]
  rw [hookOf_eq_chain, hookOf_eq_chain, rules_plan, rules_plan, hempty]
  cases pins'.isEmpty <;> simp [hhook]

end Override

end ExperimentGroups
