/-!
# Lookups

The outcome of looking something up: what was found, or the reason why it is missing. Sources are
tried in order, each with a reason of its own.

## Main definitions

* `Lookup`: the type
* `Lookup.map`, `Lookup.filter`, `Lookup.orElse`: the combinators
* `Lookup.getOr`, `Lookup.unwrap`: the ways out
* `Lookup.first`: the first hit of several lookups, or all the reasons

## Main results

* `Lookup.value?_first`: the first hit is the first lookup that found something
-/

namespace ExperimentGroups

/-- **A lookup**: a hit, or the reason of the miss. -/
inductive Lookup (ρ α : Type) where
  | found (value : α)
  | missing (reason : ρ)
  deriving DecidableEq

namespace Lookup

variable {ρ α β : Type}

/-- Whether it is a miss. -/
def isMissing : Lookup ρ α → Bool
  | .found _ => false
  | .missing _ => true

/-- What was found. -/
def value? : Lookup ρ α → Option α
  | .found a => some a
  | .missing _ => none

/-- The reason of a miss. -/
def reason? : Lookup ρ α → Option ρ
  | .found _ => none
  | .missing r => some r

/-- What was found, or the default. -/
def getOr (default : α) (l : Lookup ρ α) : α := l.value?.getD default

/-- What was found, or the reason as an error. -/
def unwrap : Lookup ρ α → Except ρ α
  | .found a => .ok a
  | .missing r => .error r

/-- Applies a function to a hit. -/
def map (f : α → β) : Lookup ρ α → Lookup ρ β
  | .found a => .found (f a)
  | .missing r => .missing r

/-- Turns a hit that is refused into a miss with the given reason. -/
def filter (p : α → Bool) (reason : ρ) : Lookup ρ α → Lookup ρ α
  | .found a => if p a then .found a else .missing reason
  | .missing r => .missing r

/-- On a miss, looks elsewhere, knowing the reason. -/
def orElse (elsewhere : ρ → Lookup ρ α) : Lookup ρ α → Lookup ρ α
  | .found a => .found a
  | .missing r => elsewhere r

/-- A value that may be there, or the reason. -/
def ofOption (reason : ρ) : Option α → Lookup ρ α
  | some a => .found a
  | none => .missing reason

/-- **The first hit**, or the reasons of all misses in order. -/
def first : List (Lookup ρ α) → Lookup (List ρ) α
  | [] => .missing []
  | .found a :: _ => .found a
  | .missing r :: ls =>
    match first ls with
    | .found a => .found a
    | .missing rs => .missing (r :: rs)

@[simp] theorem value?_map (f : α → β) (l : Lookup ρ α) : (l.map f).value? = l.value?.map f := by
  cases l <;> rfl

@[simp] theorem value?_filter (p : α → Bool) (reason : ρ) (l : Lookup ρ α) :
    (l.filter p reason).value? = l.value?.filter p := by
  cases l with
  | found a => by_cases h : p a = true <;> simp [filter, value?, Option.filter, h]
  | missing r => rfl

/-- The first hit is the first lookup that found something. -/
theorem value?_first (ls : List (Lookup ρ α)) : (first ls).value? = ls.findSome? value? := by
  induction ls with
  | nil => rfl
  | cons l ls ih =>
    cases l with
    | found a => rfl
    | missing r =>
      rw [List.findSome?_cons]
      simp only [value?]
      rw [← ih, first]
      cases first ls <;> rfl

end Lookup

end ExperimentGroups
