/-!
# Terminal sequences

A terminal sequence is an escape character and an opening bracket, then digits, semicolons and
question marks, then an ASCII letter. Output that does not go to a terminal is written without them.

## Main definitions

* `Sequence.after?`: what follows a terminal sequence
* `Sequence.strip`: a text without terminal sequences

## Main results

* `Sequence.strip_eq_self`: a text without an escape character is kept as it is
-/

namespace ExperimentGroups

namespace Sequence

/-- The escape character. -/
def escape : Char := '\x1b'

/-- Whether a character can be a parameter of a sequence. -/
def isParameter (c : Char) : Bool := c.isDigit || c == ';' || c == '?'

/-- What follows the parameters and the letter of a sequence. -/
def afterParameters? : List Char → Option (List Char)
  | [] => none
  | c :: cs => if isParameter c then afterParameters? cs else if c.isAlpha then some cs else none

/-- **What follows a terminal sequence** at the start of a text. -/
def after? : List Char → Option (List Char)
  | c :: '[' :: cs => if c = escape then afterParameters? cs else none
  | _ => none

theorem length_afterParameters?_lt {cs rest : List Char} (h : afterParameters? cs = some rest) :
    rest.length < cs.length := by
  induction cs with
  | nil => simp [afterParameters?] at h
  | cons c cs ih =>
    rw [afterParameters?] at h
    split at h
    · have := ih h
      rw [List.length_cons]
      omega
    · split at h
      · cases h
        simp
      · cases h

theorem length_after?_lt {cs rest : List Char} (h : after? cs = some rest) :
    rest.length < cs.length := by
  unfold after? at h
  split at h
  · split at h
    · have := length_afterParameters?_lt h
      simp only [List.length_cons]
      omega
    · cases h
  · cases h

/-- **A text without its terminal sequences.** -/
def strip : List Char → List Char
  | [] => []
  | c :: cs =>
    match h : after? (c :: cs) with
    | some rest =>
      have : rest.length < (c :: cs).length := length_after?_lt h
      strip rest
    | none => c :: strip cs
  termination_by cs => cs.length
  decreasing_by
    · assumption
    · exact Nat.lt_succ_self cs.length

theorem after?_eq_none {cs : List Char} (h : escape ∉ cs) : after? cs = none := by
  unfold after?
  split
  · next c cs =>
    rw [if_neg]
    intro e
    exact h (by simp [e])
  · rfl

/-- A text without an escape character is kept as it is. -/
theorem strip_eq_self {cs : List Char} (h : escape ∉ cs) : strip cs = cs := by
  induction cs with
  | nil => simp [strip]
  | cons c cs ih =>
    have hn : after? (c :: cs) = none := after?_eq_none h
    rw [strip]
    split
    · next rest he => rw [hn] at he; cases he
    · rw [ih fun hm => h (List.mem_cons_of_mem c hm)]

end Sequence

end ExperimentGroups
