import ExperimentGroups.Proofs.FreeForm
import ExperimentGroups.Wire.Nesting

/-!
# Lawful shapes

A shape is lawful if what it reads is what it writes: a field that is left out when it is null has
that null as its default, no two fields of a record have a name in common, and a record is made of
the values that its fields show. What a lawful shape reads satisfies all the conditions of the
shape, wherever it comes from.

## Main definitions

* `Wire.Shape.isFinite`: values without NaN and infinities
* `Wire.Shape.Holds`: values that satisfy the conditions of a shape
* `Wire.Shape.Lawful`: lawful shapes

## Main results

* `Wire.Fields.read_field_eq_ok_iff`: when a field is read
* `Wire.Shape.exists_of_read_record`: a record that was read is made of its fields
* `Wire.Shape.holds_of_read`: what is read satisfies the conditions
-/

namespace ExperimentGroups

namespace Wire

/-! ## Values -/

mutual

/-- **Whether a value holds no NaN and no infinity.** -/
def Shape.isFinite {α : Type} : Shape α → α → Bool
  | .double, x => x.isFinite
  | .share, x => x.isFinite
  | .anything, j => j.isFinite
  | .nullable s, a =>
    match a with
    | none => true
    | some a => s.isFinite a
  | .sequence _ s, xs => xs.all fun x => s.isFinite x
  | .dict s, d => d.entries.all fun e => s.isFinite e.2
  | .record fields _, a => fields.isFinite a
  | _, _ => true

/-- Whether the fields of a record hold no NaN and no infinity. -/
def Fields.isFinite {ρ β : Type} : Fields ρ β → ρ → Bool
  | .done, _ => true
  | .field _ _ get s rest, r => s.isFinite (get r) && rest.isFinite r

end

/-- The values of the fields of a record, in a nested pair. -/
def Fields.values {ρ β : Type} : Fields ρ β → ρ → β
  | .done, _ => ()
  | .field _ _ get _ rest, r => (get r, rest.values r)

mutual

/-- **That a value satisfies the conditions of a shape**: texts are within bounds, free-form values
settled, and records made of their fields. -/
def Shape.Holds {α : Type} : Shape α → α → Prop
  | .text least most, s => least ≤ s.length ∧ ∀ n ∈ most, s.length ≤ n
  | .choice options label, a => Dict.findEntry (label a) options = some a
  | .share, x => x.atMostOne = true ∧ x.atLeastZero = true
  | .anything, j => j.settled = j
  | .nullable s, a =>
    match a with
    | none => True
    | some a => s.Holds a
  | .sequence _ s, xs => ∀ x ∈ xs, s.Holds x
  | .dict s, d => ∀ e ∈ d.entries, s.Holds e.2
  | .record fields make, a => fields.Holds a ∧ make (fields.values a) = .ok a
  | _, _ => True

/-- That the fields of a record satisfy the conditions of their shapes. -/
def Fields.Holds {ρ β : Type} : Fields ρ β → ρ → Prop
  | .done, _ => True
  | .field _ _ get s rest, r => s.Holds (get r) ∧ rest.Holds r

end

/-! ## Shapes -/

/-- Whether a shape is never written as a null. -/
def Shape.isSolid {α : Type} : Shape α → Bool
  | .anything => false
  | .nullable _ => false
  | _ => true

/-- That two fields have no name in common. -/
def Key.Apart (k l : Key) : Prop :=
  k.camel ≠ l.camel ∧ k.camel ≠ l.snake ∧ k.snake ≠ l.camel ∧ k.snake ≠ l.snake

instance : DecidableRel Key.Apart := fun _ _ => inferInstanceAs (Decidable (_ ∧ _))

/-- The keys of the fields of a record. -/
def Fields.keys {ρ β : Type} : Fields ρ β → List Key
  | .done => []
  | .field key _ _ _ rest => key :: rest.keys

/-- **A default in order**: it satisfies the conditions of its shape, is finite and nests in
nothing. -/
structure Shape.IsDefault {α : Type} (s : Shape α) (a : α) : Prop where
  holds : s.Holds a
  finite : s.isFinite a = true
  fits : ∀ style, Json.Fits 0 (s.write style a)

mutual

/-- **A lawful shape.** -/
def Shape.Lawful {α : Type} : Shape α → Prop
  | .choice options label =>
    ∀ name a, Dict.findEntry name options = some a → Dict.findEntry (label a) options = some a
  | .nullable s => s.isSolid = true ∧ s.Lawful
  | .sequence _ s => s.Lawful
  | .dict s => s.Lawful
  | .record fields make =>
    fields.keys.Pairwise Key.Apart ∧ (∀ b a, make b = .ok a → fields.values a = b) ∧ fields.Lawful
  | _ => True

/-- That the fields of a record are lawful, with their defaults. -/
def Fields.Lawful {ρ β : Type} : Fields ρ β → Prop
  | .done => True
  | .field _ default _ s rest =>
    s.Lawful ∧ (∀ a, default = some a → s.IsDefault a) ∧
      (∀ style a, s.write style a = .null → default = some a) ∧ rest.Lawful

end

/-! ## Checked results -/

theorem under_eq_ok_iff {α : Type} {step : Step} {r : Checked α} {a : α} :
    under step r = .ok a ↔ r = .ok a := by
  cases r <;> simp [under]

theorem both_eq_ok_iff {α β : Type} {r : Checked α} {t : Checked β} {p : α × β} :
    both r t = .ok p ↔ r = .ok p.1 ∧ t = .ok p.2 := by
  cases r <;> cases t <;> simp [both, Prod.ext_iff]

theorem map_eq_ok_iff {α β : Type} {f : α → β} {r : Checked α} {b : β} :
    r.map f = .ok b ↔ ∃ a, r = .ok a ∧ f a = b := by
  cases r <;> simp [Except.map]

theorem orFail_eq_ok_iff {α : Type} {j : Json} {r : Except Fault α} {a : α} :
    orFail j r = .ok a ↔ r = .ok a := by
  cases r <;> simp [orFail, fail]

theorem bind_eq_ok_iff {α β : Type} {f : α → Checked β} {r : Checked α} {b : β} :
    r.bind f = .ok b ↔ ∃ a, r = .ok a ∧ f a = .ok b := by
  cases r <;> simp [Except.bind]

/-! ## Reading -/

section Reading

variable {α : Type} {read : Json → Checked α}

theorem exists_of_readItems {i : Nat} {js : List Json} {xs : List α}
    (h : readItems read i js = .ok xs) : ∀ x ∈ xs, ∃ j ∈ js, read j = .ok x := by
  induction js generalizing i xs with
  | nil =>
    cases h
    exact fun x hx => absurd hx List.not_mem_nil
  | cons j js ih =>
    obtain ⟨⟨x, xs⟩, hboth, rfl⟩ := map_eq_ok_iff.1 h
    obtain ⟨hx, hxs⟩ := both_eq_ok_iff.1 hboth
    intro y hy
    rcases List.mem_cons.1 hy with rfl | hy
    · exact ⟨j, List.mem_cons_self, under_eq_ok_iff.1 hx⟩
    · obtain ⟨j', hj', hread⟩ := ih hxs y hy
      exact ⟨j', List.mem_cons_of_mem _ hj', hread⟩

theorem exists_of_readEntries {ms : List (String × Json)} {es : List (String × α)}
    (h : readEntries read ms = .ok es) : ∀ e ∈ es, ∃ m ∈ ms, read m.2 = .ok e.2 := by
  induction ms generalizing es with
  | nil =>
    cases h
    exact fun e he => absurd he List.not_mem_nil
  | cons m ms ih =>
    obtain ⟨⟨x, es⟩, hboth, rfl⟩ := map_eq_ok_iff.1 h
    obtain ⟨hx, hes⟩ := both_eq_ok_iff.1 hboth
    intro e he
    rcases List.mem_cons.1 he with rfl | he
    · exact ⟨m, List.mem_cons_self, under_eq_ok_iff.1 hx⟩
    · obtain ⟨m', hm', hread⟩ := ih hes e he
      exact ⟨m', List.mem_cons_of_mem _ hm', hread⟩

end Reading

/-- **When a field is read**: from its member, or else from its default. -/
theorem Fields.read_field_eq_ok_iff {ρ α β : Type} {origin : Origin} {key : Key}
    {default : Option α} {get : ρ → α} {s : Shape α} {rest : Fields ρ β}
    {ms : List (String × Json)} {b : α × β} :
    (Fields.field key default get s rest).read origin ms = .ok b ↔
      ((∃ name j, key.find? ms = some (name, j) ∧ s.read origin j = .ok b.1) ∨
        (key.find? ms = none ∧ default = some b.1)) ∧ rest.read origin ms = .ok b.2 := by
  simp only [Fields.read]
  rw [both_eq_ok_iff, and_congr_left_iff]
  intro _
  rcases key.find? ms with _ | ⟨name, j⟩
  · cases default <;> simp [fail, under]
  · simp [under_eq_ok_iff]

/-! ## From what is read to its parts -/

section Inversion

variable {α : Type} {s : Shape α} {origin : Origin} {j : Json}

theorem Shape.of_read_nullable {a : α} (h : (Shape.nullable s).read origin j = .ok (some a)) :
    s.read origin j = .ok a := by
  cases j with
  | null => cases h
  | _ =>
    obtain ⟨b, hb, hsome⟩ := map_eq_ok_iff.1 h
    cases hsome
    exact hb

theorem Shape.exists_of_read_sequence {kind : Sequence} {xs : List α}
    (h : (Shape.sequence kind s).read origin j = .ok xs) :
    ∃ js, j = .array js ∧ ∀ x ∈ xs, ∃ j ∈ js, s.read origin j = .ok x := by
  cases j with
  | array js => exact ⟨js, rfl, exists_of_readItems h⟩
  | _ => cases h

theorem Shape.exists_of_read_dict {d : Dict α} (h : (Shape.dict s).read origin j = .ok d) :
    ∃ ms, j = .object ms ∧ ∀ e ∈ d.entries, ∃ m ∈ ms, s.read origin m.2 = .ok e.2 := by
  cases j with
  | object ms =>
    obtain ⟨es, hes, rfl⟩ := map_eq_ok_iff.1 h
    exact ⟨ms, rfl, fun e he => exists_of_readEntries hes e (Dict.mem_of_mem_ofList he)⟩
  | _ => cases h

/-- A record that was read is made of the values of its fields. -/
theorem Shape.exists_of_read_record {β : Type} {fields : Fields α β} {make : β → Except Fault α}
    (hmake : ∀ b a, make b = .ok a → fields.values a = b) {a : α}
    (h : (Shape.record fields make).read origin j = .ok a) :
    ∃ ms, j = .object ms ∧ fields.read origin ms = .ok (fields.values a) ∧
      make (fields.values a) = .ok a := by
  cases j with
  | object ms =>
    obtain ⟨b, hb, hread⟩ := bind_eq_ok_iff.1 h
    have hmade := orFail_eq_ok_iff.1 hread
    obtain rfl := hmake b a hmade
    exact ⟨ms, rfl, hb, hmade⟩
  | _ => cases h

end Inversion

mutual

/-- **What is read satisfies the conditions of the shape.** -/
theorem Shape.holds_of_read {α : Type} : ∀ (s : Shape α) {origin : Origin} {j : Json} {a : α},
    s.Lawful → s.read origin j = .ok a → s.Holds a
  | .text least most, _, j, a, _, h => by
    cases j with
    | text s =>
      simp only [Shape.read, readText, fail] at h
      split_ifs at h with hleast hmost
      cases h
      exact ⟨Nat.le_of_not_lt hleast, by simpa [Option.any_eq_true] using hmost⟩
    | _ => cases h
  | .choice options label, _, j, a, hlawful, h => by
    cases j with
    | text s =>
      simp only [Shape.read, readChoice, fail] at h
      split at h
      · next hfind =>
        cases h
        exact hlawful s _ hfind
      · cases h
    | _ => cases h
  | .integer, _, _, _, _, _ => trivial
  | .double, _, _, _, _, _ => trivial
  | .share, origin, j, a, _, h => by
    have h := orFail_eq_ok_iff.1 h
    unfold share at h
    split at h
    · cases h
    · split_ifs at h with hone hzero
      cases h
      exact ⟨by simpa using hone, by simpa using hzero⟩
  | .anything, _, j, a, _, h => by
    rw [Shape.read_anything] at h
    cases h
    exact j.settled_settled
  | .nullable s, _, j, none, _, _ => trivial
  | .nullable s, origin, j, some a, hlawful, h => by
    exact s.holds_of_read hlawful.2 (Shape.of_read_nullable h)
  | .sequence kind s, origin, j, xs, hlawful, h => by
    obtain ⟨js, -, hitems⟩ := Shape.exists_of_read_sequence h
    intro x hx
    obtain ⟨j, -, hread⟩ := hitems x hx
    exact s.holds_of_read hlawful hread
  | .dict s, origin, j, d, hlawful, h => by
    obtain ⟨ms, -, hentries⟩ := Shape.exists_of_read_dict h
    intro e he
    obtain ⟨m, -, hread⟩ := hentries e he
    exact s.holds_of_read hlawful hread
  | .record fields make, origin, j, a, hlawful, h => by
    obtain ⟨_, hmake, hlawful⟩ := hlawful
    obtain ⟨ms, -, hread, hmade⟩ := Shape.exists_of_read_record hmake h
    exact ⟨fields.holds_of_read hlawful hread, hmade⟩

theorem Fields.holds_of_read {ρ β : Type} : ∀ (fields : Fields ρ β) {origin : Origin}
    {ms : List (String × Json)} {r : ρ}, fields.Lawful →
      fields.read origin ms = .ok (fields.values r) → fields.Holds r
  | .done, _, _, _, _, _ => trivial
  | .field key default get s rest, origin, ms, r, hlawful, h => by
    obtain ⟨hs, hdefault, _, hrest⟩ := hlawful
    obtain ⟨hfield, htail⟩ := Fields.read_field_eq_ok_iff.1 h
    refine ⟨?_, rest.holds_of_read hrest htail⟩
    rcases hfield with ⟨_, _, _, hread⟩ | ⟨_, hnone⟩
    · exact s.holds_of_read hs hread
    · exact (hdefault _ hnone).holds

end

end Wire

end ExperimentGroups
