import ExperimentGroups.Proofs.Slots
import Mathlib.Data.List.Forall2

/-!
# Values that are read alike

Of the members of an object the reader of a record only uses the ones that it finds for its fields.
So two values are read alike if they differ in their records only, and there not in the members that
are found, up to their names: both give the same result, or both give the same problems, in the same
order and at the same places.

A place in one value is the same as a place in the other if the steps lead to the same items, to the
same entries of dictionaries and to the same fields, each by the name that it has in its own value.
A missing field has no name there, and goes by its camel case name.

## Main definitions

* `Wire.Checked.Alike`: checked results with the same result, or with problems that correspond
* `Wire.Shape.SamePlace`, `Wire.Shape.SameProblem`: places and problems that correspond
* `Wire.Edit`, `Wire.Shape.Edited`: values that differ by an edit of the members of their records
* `Wire.Key.found`: the edits that leave the members that are found
* `Wire.Shape.MissesFieldsOnly`: that nothing but a field is reported as missing

## Main results

* `Wire.Shape.read_alike`: values with the same members found are read alike
* `Wire.Shape.SamePlace.path_eq`: if names stay as well, places are the same
-/

namespace ExperimentGroups

namespace Wire

/-! ## Checked results -/

/-- **Checked results that are alike**: the same result, or problems that correspond in order. -/
inductive Checked.Alike {α : Type} (R : Problem → Problem → Prop) : Checked α → Checked α → Prop
  | ok (a : α) : Alike R (.ok a) (.ok a)
  | error {ps qs : List Problem} (h : List.Forall₂ R ps qs) : Alike R (.error ps) (.error qs)

namespace Checked.Alike

variable {α β : Type} {R R' : Problem → Problem → Prop}

theorem mono {r r' : Checked α} (h : Alike R r r') (hR : ∀ p q, R p q → R' p q) :
    Alike R' r r' := by
  cases h with
  | ok a => exact .ok a
  | error h => exact .error (h.imp hR)

/-- A result is like itself if its problems correspond to themselves. -/
theorem refl {r : Checked α} (h : ∀ p ∈ problems r, R p p) : Alike R r r := by
  cases r with
  | ok a => exact .ok a
  | error ps => exact .error (List.forall₂_same.2 h)

theorem fail {f : Fault} {j j' : Json} (h : R ⟨[], f, j⟩ ⟨[], f, j'⟩) :
    Alike R (Wire.fail f j : Checked α) (Wire.fail f j') :=
  .error (.cons h .nil)

theorem under {r r' : Checked α} {step step' : Step} (h : Alike R r r')
    (hR : ∀ p q, R p q → R' (p.under step) (q.under step')) :
    Alike R' (Wire.under step r) (Wire.under step' r') := by
  cases h with
  | ok a => exact .ok a
  | error h => exact .error (List.rel_map (fun p q hpq => hR p q hpq) h)

theorem both {r r' : Checked α} {t t' : Checked β} (hr : Alike R r r') (ht : Alike R t t') :
    Alike R (Wire.both r t) (Wire.both r' t') := by
  cases hr with
  | ok a =>
    cases ht with
    | ok b => exact .ok (a, b)
    | error hq => exact .error hq
  | error hp =>
    cases ht with
    | ok b => exact .error hp
    | error hq => exact .error (List.rel_append hp hq)

theorem map {r r' : Checked α} (h : Alike R r r') (f : α → β) :
    Alike R (Except.map f r) (Except.map f r') := by
  cases h with
  | ok a => exact .ok (f a)
  | error h => exact .error h

theorem bind {r r' : Checked α} {f f' : α → Checked β} (h : Alike R r r')
    (hf : ∀ a, Alike R (f a) (f' a)) : Alike R (Except.bind r f) (Except.bind r' f') := by
  cases h with
  | ok a => exact hf a
  | error h => exact .error h

end Checked.Alike

/-! ## Places -/

mutual

/-- **The same place in two values of a shape**: two paths of steps, with the fault that is there.
A missing field has a place of its own; any other fault is at a part of the value. -/
inductive Shape.SamePlace (fault : Fault) :
    ∀ {α : Type}, Shape α → Json → Json → List Step → List Step → Prop
  | here {α : Type} {s : Shape α} {j j' : Json} (h : fault ≠ .missing) :
    Shape.SamePlace fault s j j' [] []
  | nullable {α : Type} {s : Shape α} {j j' : Json} {path path' : List Step}
    (h : Shape.SamePlace fault s j j' path path') :
    Shape.SamePlace fault (.nullable s) j j' path path'
  | item {α : Type} {kind : Sequence} {s : Shape α} {js js' : List Json} {i : Nat} {j j' : Json}
    {path path' : List Step} (hj : js[i]? = some j) (hj' : js'[i]? = some j')
    (h : Shape.SamePlace fault s j j' path path') :
    Shape.SamePlace fault (.sequence kind s) (.array js) (.array js')
      (.item i :: path) (.item i :: path')
  | entry {α : Type} {s : Shape α} {ms ms' : List (String × Json)} {i : Nat} {name : String}
    {j j' : Json} {path path' : List Step} (hj : ms[i]? = some (name, j))
    (hj' : ms'[i]? = some (name, j')) (h : Shape.SamePlace fault s j j' path path') :
    Shape.SamePlace fault (.dict s) (.object ms) (.object ms')
      (.member name :: path) (.member name :: path')
  | record {α β : Type} {fields : Fields α β} {make : β → Except Fault α}
    {ms ms' : List (String × Json)} {path path' : List Step}
    (h : Fields.SamePlace fault fields ms ms' path path') :
    Shape.SamePlace fault (.record fields make) (.object ms) (.object ms') path path'

/-- The same place in two objects with the fields of a record. -/
inductive Fields.SamePlace (fault : Fault) :
    ∀ {ρ β : Type}, Fields ρ β → List (String × Json) → List (String × Json) →
      List Step → List Step → Prop
  | member {ρ α β : Type} {key : Key} {default : Option α} {get : ρ → α} {s : Shape α}
    {rest : Fields ρ β} {ms ms' : List (String × Json)} {m m' : String × Json}
    {path path' : List Step} (hm : key.find? ms = some m) (hm' : key.find? ms' = some m')
    (h : Shape.SamePlace fault s m.2 m'.2 path path') :
    Fields.SamePlace fault (.field key default get s rest) ms ms'
      (.member m.1 :: path) (.member m'.1 :: path')
  | missing {ρ α β : Type} {key : Key} {get : ρ → α} {s : Shape α} {rest : Fields ρ β}
    {ms ms' : List (String × Json)} (hfault : fault = .missing) (hm : key.find? ms = none)
    (hm' : key.find? ms' = none) :
    Fields.SamePlace fault (.field key none get s rest) ms ms'
      [.member key.camel] [.member key.camel]
  | later {ρ α β : Type} {key : Key} {default : Option α} {get : ρ → α} {s : Shape α}
    {rest : Fields ρ β} {ms ms' : List (String × Json)} {path path' : List Step}
    (h : Fields.SamePlace fault rest ms ms' path path') :
    Fields.SamePlace fault (.field key default get s rest) ms ms' path path'

end

/-- **The same problem of two values of a shape**: the same fault at the same place. -/
def Shape.SameProblem {α : Type} (s : Shape α) (j j' : Json) (p q : Problem) : Prop :=
  p.fault = q.fault ∧ s.SamePlace p.fault j j' p.path q.path

/-- The same problem of two objects with the fields of a record. -/
def Fields.SameProblem {ρ β : Type} (fields : Fields ρ β) (ms ms' : List (String × Json))
    (p q : Problem) : Prop :=
  p.fault = q.fault ∧ fields.SamePlace p.fault ms ms' p.path q.path

/-! ## Edits -/

/-- Arrays with items that correspond, or one and the same other value. -/
inductive OnItems (R : Json → Json → Prop) : Json → Json → Prop
  | array {js js' : List Json} (h : List.Forall₂ R js js') : OnItems R (.array js) (.array js')
  | other {j : Json} (h : ∀ js, j ≠ .array js) : OnItems R j j

/-- Objects with members that correspond, or one and the same other value. -/
inductive OnMembers (R : List (String × Json) → List (String × Json) → Prop) : Json → Json → Prop
  | object {ms ms' : List (String × Json)} (h : R ms ms') : OnMembers R (.object ms) (.object ms')
  | other {j : Json} (h : ∀ ms, j ≠ .object ms) : OnMembers R j j

theorem OnItems.mono {R R' : Json → Json → Prop} (hR : ∀ j j', R j j' → R' j j') {j j' : Json}
    (h : OnItems R j j') : OnItems R' j j' := by
  cases h with
  | array h => exact .array (h.imp hR)
  | other h => exact .other h

theorem OnMembers.mono {R R' : List (String × Json) → List (String × Json) → Prop}
    (hR : ∀ ms ms', R ms ms' → R' ms ms') {j j' : Json} (h : OnMembers R j j') :
    OnMembers R' j j' := by
  cases h with
  | object h => exact .object (hR _ _ h)
  | other h => exact .other h

/-- **An edit**: what the members of two objects have to do with each other for a field, given what
the values of the field have to do with each other. -/
abbrev Edit := Key → (Json → Json → Prop) → List (String × Json) → List (String × Json) → Prop

mutual

/-- **Two values that differ by an edit of the members of their records.** Free-form values are the
same, and so are the names and the order of the entries of dictionaries. -/
def Shape.Edited {α : Type} (edit : Edit) : Shape α → Json → Json → Prop
  | .nullable s => s.Edited edit
  | .sequence _ s => OnItems (s.Edited edit)
  | .dict s => OnMembers (List.Forall₂ fun m m' => m.1 = m'.1 ∧ s.Edited edit m.2 m'.2)
  | .record fields _ => OnMembers (fields.Edited edit)
  | _ => Eq

/-- Two objects that differ by an edit for each field of a record. -/
def Fields.Edited {ρ β : Type} (edit : Edit) :
    Fields ρ β → List (String × Json) → List (String × Json) → Prop
  | .done => fun _ _ => True
  | .field key _ _ s rest => fun ms ms' => edit key (s.Edited edit) ms ms' ∧ rest.Edited edit ms ms'

end

/-- **An edit that allows more than another**, also on values that have more to do with each
other. -/
def Edit.Within (e e' : Edit) : Prop :=
  ∀ (key : Key) (R R' : Json → Json → Prop) (ms ms' : List (String × Json)),
    (∀ j j', R j j' → R' j j') → e key R ms ms' → e' key R' ms ms'

mutual

theorem Shape.Edited.mono {e e' : Edit} (h : e.Within e') :
    ∀ {α : Type} (s : Shape α) (j j' : Json), s.Edited e j j' → s.Edited e' j j'
  | _, .nullable s, j, j', hj => Shape.Edited.mono h s j j' hj
  | _, .sequence _ s, _, _, hj => OnItems.mono (Shape.Edited.mono h s) hj
  | _, .dict s, _, _, hj => OnMembers.mono (fun _ _ hms =>
    hms.imp fun m m' hm => ⟨hm.1, Shape.Edited.mono h s m.2 m'.2 hm.2⟩) hj
  | _, .record fields _, _, _, hj => OnMembers.mono (Fields.Edited.mono h fields) hj
  | _, .text _ _, _, _, hj => hj
  | _, .choice _ _, _, _, hj => hj
  | _, .integer, _, _, hj => hj
  | _, .double, _, _, hj => hj
  | _, .share, _, _, hj => hj
  | _, .anything, _, _, hj => hj

theorem Fields.Edited.mono {e e' : Edit} (h : e.Within e') :
    ∀ {ρ β : Type} (fields : Fields ρ β) (ms ms' : List (String × Json)),
      fields.Edited e ms ms' → fields.Edited e' ms ms'
  | _, _, .done, _, _, _ => trivial
  | _, _, .field _ _ _ s rest, ms, ms', hms =>
    ⟨h _ _ _ _ _ (Shape.Edited.mono h s) hms.1, Fields.Edited.mono h rest ms ms' hms.2⟩

end

/-- The edits that leave the members that are found, up to their names. -/
def Key.found : Edit := fun key R ms ms' =>
  Option.Rel (fun m m' => R m.2 m'.2) (key.find? ms) (key.find? ms')

/-- The edits that leave the members that are found, with their names. -/
def Key.foundByName : Edit := fun key R ms ms' =>
  Option.Rel (fun m m' => m.1 = m'.1 ∧ R m.2 m'.2) (key.find? ms) (key.find? ms')

/-! ## Missing fields -/

mutual

/-- **Nothing but a field is reported as missing**: what makes a record reports another fault. -/
def Shape.MissesFieldsOnly {α : Type} : Shape α → Prop
  | .nullable s => s.MissesFieldsOnly
  | .sequence _ s => s.MissesFieldsOnly
  | .dict s => s.MissesFieldsOnly
  | .record fields make => (∀ b, make b ≠ .error .missing) ∧ fields.MissesFieldsOnly
  | _ => True

/-- That nothing but a field is reported as missing within the fields of a record. -/
def Fields.MissesFieldsOnly {ρ β : Type} : Fields ρ β → Prop
  | .done => True
  | .field _ _ _ s rest => s.MissesFieldsOnly ∧ rest.MissesFieldsOnly

end

/-- That all problems are at the value itself, and none is a missing field. -/
def ReportsItself {α : Type} (r : Checked α) : Prop :=
  ∀ p ∈ problems r, p.path = [] ∧ p.fault ≠ .missing

section ReportsItself

variable {α : Type}

theorem reportsItself_ok (a : α) : ReportsItself (.ok a) := fun _ h => absurd h List.not_mem_nil

theorem reportsItself_fail {f : Fault} (h : f ≠ .missing) (j : Json) :
    ReportsItself (fail f j : Checked α) := by
  intro p hp
  obtain rfl := List.mem_singleton.1 hp
  exact ⟨rfl, h⟩

theorem reportsItself_orFail {r : Except Fault α} (h : r ≠ .error .missing) (j : Json) :
    ReportsItself (orFail j r) := by
  cases r with
  | ok a => exact reportsItself_ok a
  | error f => exact reportsItself_fail (fun hf => h (congrArg _ hf)) j

theorem reportsItself_readText (least : Nat) (most : Option Nat) (j : Json) :
    ReportsItself (readText least most j) := by
  unfold readText
  repeat' split
  · exact reportsItself_fail (by decide) _
  · exact reportsItself_fail (by decide) _
  · exact reportsItself_ok _
  · exact reportsItself_fail (by decide) _

theorem reportsItself_readChoice (options : List (String × α)) (j : Json) :
    ReportsItself (readChoice options j) := by
  unfold readChoice
  repeat' split
  · exact reportsItself_ok _
  · exact reportsItself_fail (by decide) _
  · exact reportsItself_fail (by decide) _

theorem plainInteger_ne_missing (cs : List Char) : plainInteger cs ≠ .error .missing := by
  unfold plainInteger
  repeat' split
  all_goals simp

theorem integer_ne_missing (j : Json) : integer j ≠ .error .missing := by
  cases j with
  | double x =>
    show integerOfDouble x ≠ _
    unfold integerOfDouble
    repeat' split
    all_goals simp
  | text t =>
    show integerText t ≠ _
    unfold integerText
    repeat' split
    · simp
    · simp
    · exact plainInteger_ne_missing _
  | _ => simp [integer]

theorem double_ne_missing (origin : Origin) (j : Json) : double origin j ≠ .error .missing := by
  cases j with
  | int n =>
    show doubleOfInt origin n ≠ _
    unfold doubleOfInt
    split <;> simp
  | text t =>
    simp only [double]
    split <;> simp
  | _ => simp [double]

theorem share_ne_missing (origin : Origin) (j : Json) : share origin j ≠ .error .missing := by
  unfold share
  repeat' split
  · next f h =>
    intro hf
    cases hf
    exact double_ne_missing origin j h
  all_goals simp

end ReportsItself

/-! ## Reading -/

section Reading

variable {α : Type} {s : Shape α}

/-- A result is like itself if its problems are at the value itself. -/
theorem ReportsItself.alike {β : Type} {r : Checked β} (h : ReportsItself r) (s : Shape α)
    (j j' : Json) : Checked.Alike (s.SameProblem j j') r r := by
  refine .refl fun p hp => ⟨rfl, ?_⟩
  rw [(h p hp).1]
  exact .here (h p hp).2

theorem rel_iff {γ : Type} {R : γ → γ → Prop} {a? b? : Option γ} :
    Option.Rel R a? b? ↔
      (a? = none ∧ b? = none) ∨ ∃ a b, a? = some a ∧ b? = some b ∧ R a b := by
  constructor
  · intro h
    cases h with
    | none => exact .inl ⟨rfl, rfl⟩
    | some h => exact .inr ⟨_, _, rfl, rfl, h⟩
  · rintro (⟨rfl, rfl⟩ | ⟨a, b, rfl, rfl, h⟩)
    · exact .none
    · exact .some h

theorem rel_imp {γ : Type} {R R' : γ → γ → Prop} (hR : ∀ a b, R a b → R' a b) {a? b? : Option γ}
    (h : Option.Rel R a? b?) : Option.Rel R' a? b? := by
  cases h with
  | none => exact .none
  | some h => exact .some (hR _ _ h)

/-- What follows the item at `i` begins at `i + 1`. -/
theorem getElem?_next {γ : Type} {all xs : List γ} {x : γ} {i : Nat}
    (h : ∀ n, all[i + n]? = (x :: xs)[n]?) (n : Nat) : all[i + 1 + n]? = xs[n]? := by
  rw [Nat.add_assoc, Nat.add_comm 1, h, List.getElem?_cons_succ]

/-- Items that are read alike, from `i` on. -/
theorem alike_readItems {read : Json → Checked α} {kind : Sequence} {all all' js js' : List Json}
    (h : List.Forall₂ (fun j j' => Checked.Alike (s.SameProblem j j') (read j) (read j')) js js')
    {i : Nat} (hall : ∀ n, all[i + n]? = js[n]?) (hall' : ∀ n, all'[i + n]? = js'[n]?) :
    Checked.Alike ((Shape.sequence kind s).SameProblem (.array all) (.array all'))
      (readItems read i js) (readItems read i js') := by
  -- The items in front are behind the index, so it grows along both lists.
  induction h generalizing i with
  | nil => exact .ok _
  | cons hj _ ih =>
    refine .map (.both (.under hj ?_) (ih (getElem?_next hall) (getElem?_next hall'))) _
    rintro p q ⟨hfault, hplace⟩
    exact ⟨hfault, .item (hall 0) (hall' 0) hplace⟩

/-- Entries of the same names that are read alike, from `i` on. -/
theorem alike_readEntries {read : Json → Checked α} {all all' ms ms' : List (String × Json)}
    (h : List.Forall₂ (fun m m' => m.1 = m'.1 ∧
      Checked.Alike (s.SameProblem m.2 m'.2) (read m.2) (read m'.2)) ms ms')
    {i : Nat} (hall : ∀ n, all[i + n]? = ms[n]?) (hall' : ∀ n, all'[i + n]? = ms'[n]?) :
    Checked.Alike ((Shape.dict s).SameProblem (.object all) (.object all'))
      (readEntries read ms) (readEntries read ms') := by
  induction h generalizing i with
  | nil => exact .ok _
  | @cons m m' ms ms' hm _ ih =>
    obtain ⟨name, j⟩ := m
    obtain ⟨name', j'⟩ := m'
    obtain ⟨rfl, hread⟩ := hm
    refine .map (.both (.under hread ?_) (ih (getElem?_next hall) (getElem?_next hall'))) _
    rintro p q ⟨hfault, hplace⟩
    exact ⟨hfault, .entry (hall 0) (hall' 0) hplace⟩

/-- **A field is read alike** if the members that are found are, or if there is none. -/
theorem alike_readField {ρ β : Type} {origin : Origin} {key : Key} {default : Option α}
    {get : ρ → α} {rest : Fields ρ β} {ms ms' : List (String × Json)}
    (h : Option.Rel (fun m m' => Checked.Alike (s.SameProblem m.2 m'.2)
      (s.read origin m.2) (s.read origin m'.2)) (key.find? ms) (key.find? ms')) :
    Checked.Alike ((Fields.field key default get s rest).SameProblem ms ms')
      (readField origin ms key default s) (readField origin ms' key default s) := by
  unfold readField
  rcases rel_iff.1 h with ⟨hm, hm'⟩ | ⟨m, m', hm, hm', hread⟩
  · rw [hm, hm']
    cases default with
    | some a => exact .ok a
    | none => exact .error (.cons ⟨rfl, .missing rfl hm hm'⟩ .nil)
  · rw [hm, hm']
    refine .under hread ?_
    rintro p q ⟨hfault, hplace⟩
    exact ⟨hfault, .member hm hm' hplace⟩

end Reading

/-- A null only differs from a null by no edit. -/
theorem Shape.Edited.eq_null_iff {edit : Edit} : ∀ {α : Type} (s : Shape α) {j j' : Json},
    s.Edited edit j j' → (j = .null ↔ j' = .null)
  | _, .nullable s, _, _, hj => Shape.Edited.eq_null_iff s hj
  | _, .sequence _ s, _, _, hj => by cases hj <;> simp
  | _, .dict s, _, _, hj => by cases hj <;> simp
  | _, .record _ _, _, _, hj => by cases hj <;> simp
  | _, .text _ _, _, _, hj => by cases hj; rfl
  | _, .choice _ _, _, _, hj => by cases hj; rfl
  | _, .integer, _, _, rfl => .rfl
  | _, .double, _, _, rfl => .rfl
  | _, .share, _, _, rfl => .rfl
  | _, .anything, _, _, rfl => .rfl

mutual

/-- **Values with the same members found are read alike.** -/
theorem Shape.read_alike (origin : Origin) : ∀ {α : Type} (s : Shape α) (j j' : Json),
    s.MissesFieldsOnly → s.Edited Key.found j j' →
      Checked.Alike (s.SameProblem j j') (s.read origin j) (s.read origin j')
  | _, .text least most, j, _, _, rfl => (reportsItself_readText least most j).alike _ _ _
  | _, .choice options label, j, j', _, hj => by
    obtain rfl : j = j' := hj
    exact (reportsItself_readChoice options j).alike _ _ _
  | _, .integer, j, _, _, rfl => (reportsItself_orFail (integer_ne_missing j) j).alike _ _ _
  | _, .double, j, _, _, rfl =>
    (reportsItself_orFail (double_ne_missing origin j) j).alike _ _ _
  | _, .share, j, _, _, rfl => (reportsItself_orFail (share_ne_missing origin j) j).alike _ _ _
  | _, .anything, j, _, _, rfl => (reportsItself_ok j.settled).alike _ _ _
  | _, .nullable s, j, j', hs, hj => by
    have hread : ∀ i, i ≠ .null → (Shape.nullable s).read origin i = (s.read origin i).map some := by
      intro i hi
      cases i with
      | null => exact absurd rfl hi
      | _ => rfl
    by_cases hnull : j = .null
    · have hnull' := (Shape.Edited.eq_null_iff s hj).1 hnull
      rw [hnull, hnull', Shape.read_nullable_null]
      exact .ok none
    · rw [hread j hnull, hread j' fun h => hnull ((Shape.Edited.eq_null_iff s hj).2 h)]
      refine ((Shape.read_alike origin s j j' hs hj).map some).mono ?_
      rintro p q ⟨hfault, hplace⟩
      exact ⟨hfault, .nullable hplace⟩
  | _, .sequence kind s, j, j', hs, hj => by
    cases hj with
    | array hjs =>
      exact alike_readItems (hjs.imp fun j j' hj => Shape.read_alike origin s j j' hs hj)
        (by simp) (by simp)
    | other hj =>
      refine ReportsItself.alike ?_ _ j j
      cases j with
      | array js => exact absurd rfl (hj js)
      | _ => exact reportsItself_fail (by cases kind <;> decide) _
  | _, .dict s, j, j', hs, hj => by
    cases hj with
    | object hms =>
      refine .map (alike_readEntries (hms.imp fun m m' hm =>
        ⟨hm.1, Shape.read_alike origin s m.2 m'.2 hs hm.2⟩) (i := 0) (by simp) (by simp)) _
    | other hj =>
      refine ReportsItself.alike ?_ _ j j
      cases j with
      | object ms => exact absurd rfl (hj ms)
      | _ => exact reportsItself_fail (by decide) _
  | _, .record fields make, j, j', hs, hj => by
    cases hj with
    | @object ms ms' hms =>
      refine .bind ((Fields.read_alike origin fields ms ms' hs.2 hms).mono ?_) fun b => ?_
      · rintro p q ⟨hfault, hplace⟩
        exact ⟨hfault, .record hplace⟩
      · -- What makes the record sees the same values, and only shows other objects.
        cases hb : make b with
        | ok a => exact .ok a
        | error f => exact .fail ⟨rfl, .here fun hf => hs.1 b (hf ▸ hb)⟩
    | other hj =>
      refine ReportsItself.alike ?_ _ j j
      cases j with
      | object ms => exact absurd rfl (hj ms)
      | _ => exact reportsItself_fail (by decide) _

theorem Fields.read_alike (origin : Origin) : ∀ {ρ β : Type} (fields : Fields ρ β)
    (ms ms' : List (String × Json)), fields.MissesFieldsOnly → fields.Edited Key.found ms ms' →
      Checked.Alike (fields.SameProblem ms ms') (fields.read origin ms) (fields.read origin ms')
  | _, _, .done, _, _, _, _ => .ok ()
  | _, _, .field key default get s rest, ms, ms', hs, hms => by
    refine .both (alike_readField (rel_imp (fun m m' hm => ?_) hms.1)) ?_
    · exact Shape.read_alike origin s m.2 m'.2 hs.1 hm
    · refine (Fields.read_alike origin rest ms ms' hs.2 hms.2).mono ?_
      rintro p q ⟨hfault, hplace⟩
      exact ⟨hfault, .later hplace⟩

end

/-! ## Names that stay -/

theorem forall₂_getElem? {γ : Type} {R : γ → γ → Prop} {xs ys : List γ} (h : List.Forall₂ R xs ys)
    {i : Nat} {x y : γ} (hx : xs[i]? = some x) (hy : ys[i]? = some y) : R x y := by
  obtain ⟨hi, rfl⟩ := List.getElem?_eq_some_iff.1 hx
  obtain ⟨hi', rfl⟩ := List.getElem?_eq_some_iff.1 hy
  exact h.get hi hi'

mutual

/-- **If names stay as well, places are the same.** -/
theorem Shape.SamePlace.path_eq {fault : Fault} : ∀ {α : Type} {s : Shape α} {j j' : Json}
    {path path' : List Step}, s.SamePlace fault j j' path path' →
      s.Edited Key.foundByName j j' → path = path'
  | _, _, _, _, _, _, .here _, _ => rfl
  | _, _, _, _, _, _, .nullable h, hj => Shape.SamePlace.path_eq h hj
  | _, _, _, _, _, _, .item hj hj' h, hjs => by
    cases hjs with
    | array hjs => rw [Shape.SamePlace.path_eq h (forall₂_getElem? hjs hj hj')]
    | other hne => exact absurd rfl (hne _)
  | _, _, _, _, _, _, .entry hm hm' h, hms => by
    cases hms with
    | object hms => rw [Shape.SamePlace.path_eq h (forall₂_getElem? hms hm hm').2]
    | other hne => exact absurd rfl (hne _)
  | _, _, _, _, _, _, .record h, hms => by
    cases hms with
    | object hms => exact Fields.SamePlace.path_eq h hms
    | other hne => exact absurd rfl (hne _)

theorem Fields.SamePlace.path_eq {fault : Fault} : ∀ {ρ β : Type} {fields : Fields ρ β}
    {ms ms' : List (String × Json)} {path path' : List Step},
    fields.SamePlace fault ms ms' path path' →
      fields.Edited Key.foundByName ms ms' → path = path'
  | _, _, _, _, _, _, _, .member hm hm' h, hms => by
    -- The members that the edit compares are the ones of the place.
    rcases rel_iff.1 hms.1 with ⟨hnone, -⟩ | ⟨n, n', hn, hn', hname, hvalue⟩
    · rw [hm] at hnone
      cases hnone
    · obtain rfl := Option.some.inj (hm.symm.trans hn)
      obtain rfl := Option.some.inj (hm'.symm.trans hn')
      rw [hname, Shape.SamePlace.path_eq h hvalue]
  | _, _, _, _, _, _, _, .missing _ _ _, _ => rfl
  | _, _, _, _, _, _, _, .later h, hms => Fields.SamePlace.path_eq h hms.2

end

end Wire

end ExperimentGroups
