/-!
# Splitting at a character

The parts of a text between the places where a separator stands. There is always at least one part,
and parts may be empty.

## Main definitions

* `Text.split`: the parts
* `Text.lines`: the parts between line feeds
* `Text.words`: the parts between runs of a class, which are never empty

## Main results

* `Text.split_of_not_mem`, `Text.split_append_cons`: a text without the separator is one part, and a
  part ends at the first separator
* `Text.split_intercalate`: splitting gives back what was joined
-/

namespace ExperimentGroups

namespace Text

/-- **The parts of a text between separators.** -/
def split (separator : Char) : List Char → List (List Char)
  | [] => [[]]
  | c :: cs =>
    if c = separator then [] :: split separator cs
    else
      match split separator cs with
      | [] => [[c]]
      | part :: parts => (c :: part) :: parts

/-- The lines of a text; a line feed ends a line. -/
def lines (cs : List Char) : List (List Char) := split '\n' cs

/-- **The words of a text**: what stands between runs of a class. -/
def words (p : Char → Bool) : List Char → List (List Char)
  | [] => []
  | c :: cs =>
    if p c then words p cs
    else
      match cs.head?.any p, words p cs with
      | false, word :: rest => (c :: word) :: rest
      | _, rest => [c] :: rest

/-- A text without the separator is one part. -/
theorem split_of_not_mem {separator : Char} {cs : List Char} (h : separator ∉ cs) :
    split separator cs = [cs] := by
  induction cs with
  | nil => rfl
  | cons c cs ih =>
    rw [List.mem_cons, not_or] at h
    rw [split, if_neg (fun e => h.1 e.symm), ih h.2]

/-- A part ends at the first separator. -/
theorem split_append_cons {separator : Char} {part : List Char} (h : separator ∉ part)
    (rest : List Char) :
    split separator (part ++ separator :: rest) = part :: split separator rest := by
  induction part with
  | nil => simp [split]
  | cons c part ih =>
    rw [List.mem_cons, not_or] at h
    rw [List.cons_append, split, if_neg (fun e => h.1 e.symm), ih h.2]

/-- Parts that do not hold the separator are given back after they were joined. -/
theorem split_intercalate {separator : Char} {parts : List (List Char)} (hne : parts ≠ [])
    (h : ∀ part ∈ parts, separator ∉ part) :
    split separator ([separator].intercalate parts) = parts := by
  induction parts with
  | nil => exact absurd rfl hne
  | cons part parts ih =>
    have hpart := h part List.mem_cons_self
    cases parts with
    | nil => rw [List.intercalate_singleton, split_of_not_mem hpart]
    | cons next parts =>
      rw [List.intercalate_cons_cons, List.append_assoc, List.singleton_append,
        split_append_cons hpart,
        ih (List.cons_ne_nil _ _) fun q hq => h q (List.mem_cons_of_mem _ hq)]

end Text

end ExperimentGroups
