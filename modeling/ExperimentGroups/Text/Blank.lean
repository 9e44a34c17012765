/-!
# Blanks

Two classes of blank characters and the cutting of blanks at both ends of a text. The first class
is the property White_Space of the character standard; the second also has the four information
separators U+001C to U+001F.

## Main definitions

* `Text.isBlank`, `Text.isBlankOrSeparator`: the two classes
* `Text.trim`: a text without the characters of a class at its ends

## Main results

* `Text.trim_append`: what stands between two runs of the class is what is left
-/

namespace ExperimentGroups

namespace Text

/-- The property White_Space. -/
def isBlank (c : Char) : Bool :=
  let n := c.toNat
  (9 ≤ n && n ≤ 13) || n == 0x20 || n == 0x85 || n == 0xA0 || n == 0x1680 ||
    (0x2000 ≤ n && n ≤ 0x200A) || n == 0x2028 || n == 0x2029 || n == 0x202F || n == 0x205F ||
    n == 0x3000

/-- White_Space and the information separators. -/
def isBlankOrSeparator (c : Char) : Bool :=
  isBlank c || (0x1C ≤ c.toNat && c.toNat ≤ 0x1F)

/-- A text without the characters of a class at its end. -/
def trimEnd (p : Char → Bool) (cs : List Char) : List Char := (cs.reverse.dropWhile p).reverse

/-- **A text without the characters of a class at its ends.** -/
def trim (p : Char → Bool) (cs : List Char) : List Char := trimEnd p (cs.dropWhile p)

theorem dropWhile_append_of_all {p : Char → Bool} {xs : List Char} (h : ∀ c ∈ xs, p c = true)
    (ys : List Char) : (xs ++ ys).dropWhile p = ys.dropWhile p := by
  induction xs with
  | nil => rfl
  | cons x xs ih =>
    have hx : p x = true := h x List.mem_cons_self
    simp [hx, ih fun c hc => h c (List.mem_cons_of_mem _ hc)]

theorem dropWhile_eq_self {p : Char → Bool} {ys : List Char}
    (h : ∀ c, ys.head? = some c → p c = false) : ys.dropWhile p = ys := by
  cases ys with
  | nil => rfl
  | cons y ys => simp [h y rfl]

/-- What stands between two runs of the class, and neither begins nor ends in it, is what is
left. -/
theorem trim_append {p : Char → Bool} {xs ys zs : List Char} (hx : ∀ c ∈ xs, p c = true)
    (hz : ∀ c ∈ zs, p c = true) (hfirst : ∀ c, ys.head? = some c → p c = false)
    (hlast : ∀ c, ys.getLast? = some c → p c = false) : trim p (xs ++ ys ++ zs) = ys := by
  unfold trim trimEnd
  rw [List.append_assoc, dropWhile_append_of_all hx]
  cases ys with
  | nil =>
    have : zs.dropWhile p = [] := by
      simpa using dropWhile_append_of_all hz []
    simp [this]
  | cons y ys =>
    rw [List.cons_append, List.dropWhile_cons_of_neg (by simp [hfirst y rfl]), ← List.cons_append,
      List.reverse_append, dropWhile_append_of_all (fun c hc => hz c (List.mem_reverse.1 hc)),
      dropWhile_eq_self (fun c hc => hlast c (by rwa [List.head?_reverse] at hc)),
      List.reverse_reverse]

end Text

end ExperimentGroups
