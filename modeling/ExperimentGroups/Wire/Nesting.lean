import ExperimentGroups.Wire.Document

/-!
# Values that nest too deeply

A free-form value may be held at any depth, but it is only written up to a limit. Values of the
other shapes nest as deeply as their shape says.

## Main definitions

* `Wire.nestingLimit`: the limit
* `Wire.Shape.freeLevels`: how deep the free-form parts of a value nest
* `Wire.Shape.wire?`, `Wire.Shape.toText?`: the wire form and the document of a value, within the
  limit

## Main results

* `Wire.Shape.wire?_eq_none_iff`: nothing else is in the way
-/

namespace ExperimentGroups

namespace Wire

/-- The most levels that a free-form value has when it is written. -/
def nestingLimit : Nat := 255

mutual

/-- **The levels of the deepest free-form part** of a value. -/
def Shape.freeLevels {α : Type} : Shape α → α → Nat
  | .anything, j => j.levels
  | .nullable s, a =>
    match a with
    | none => 0
    | some a => s.freeLevels a
  | .sequence _ s, xs => (xs.map s.freeLevels).foldl max 0
  | .dict s, d => (d.entries.map fun e => s.freeLevels e.2).foldl max 0
  | .record fields _, a => fields.freeLevels a
  | _, _ => 0

/-- The levels of the deepest free-form part of a record. -/
def Fields.freeLevels {ρ β : Type} : Fields ρ β → ρ → Nat
  | .done, _ => 0
  | .field _ _ get s rest, r => max (s.freeLevels (get r)) (rest.freeLevels r)

end

/-- Whether a value can be written. -/
def Shape.isWithinNesting {α : Type} (s : Shape α) (a : α) : Bool :=
  s.freeLevels a ≤ nestingLimit

/-- **The wire form of a value**, unless it nests too deeply. -/
def Shape.wire? {α : Type} (s : Shape α) (a : α) : Option Json :=
  if s.isWithinNesting a then some (s.wire a) else none

/-- **The document of a value** in a style, unless it nests too deeply. -/
def Shape.toText? {α : Type} (s : Shape α) (style : Style) (a : α) : Option String :=
  if s.isWithinNesting a then some (s.toText style a) else none

theorem Shape.wire?_eq_none_iff {α : Type} {s : Shape α} {a : α} :
    s.wire? a = none ↔ nestingLimit < s.freeLevels a := by
  simp [wire?, isWithinNesting]

end Wire

end ExperimentGroups
