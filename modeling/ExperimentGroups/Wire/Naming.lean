import ExperimentGroups.Wire.Shape

/-!
# Names within values

The names in the dictionaries of a value may be changed, which leaves the fields of records and the
members of free-form values alone. Names that become equal stand for one entry, of which the last
value counts.

## Main definitions

* `Wire.Shape.rename`: a value with other names in its dictionaries
-/

namespace ExperimentGroups

namespace Wire

/-- Entries with other names and values. -/
def renameEntries {α : Type} (f : String → String) (g : α → α) (es : List (String × α)) :
    List (String × α) :=
  es.map fun e => (f e.1, g e.2)

mutual

/-- **A value with other names in its dictionaries.** -/
def Shape.rename {α : Type} (f : String → String) : Shape α → α → α
  | .nullable s, a => a.map (s.rename f)
  | .sequence _ s, xs => xs.map (s.rename f)
  | .dict s, d => .ofList (renameEntries f (s.rename f) d.entries)
  | .record fields make, a =>
    match make (fields.rename f a) with
    | .ok b => b
    | .error _ => a
  | _, a => a

/-- The fields of a record with other names in their dictionaries. -/
def Fields.rename {ρ β : Type} (f : String → String) : Fields ρ β → ρ → β
  | .done, _ => ()
  | .field _ _ get s rest, r => (s.rename f (get r), rest.rename f r)

end

end Wire

end ExperimentGroups
