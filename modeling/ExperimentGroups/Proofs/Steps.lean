import Mathlib.Data.List.Forall2

/-!
# Steps on a list

Steps that may fail, one for each element of a list: either all of them succeed and give one thing
each, or the first that fails decides.

## Main results

* `mapM_eq_ok_iff`: steps succeed together if each of them does
* `mapM_eq_error_iff`: the first step that fails decides
* `mapM_eq_ok`, `mapM_eq_error`, `exists_mapM`: steps that are known to succeed or to fail
-/

namespace ExperimentGroups

variable {ε α β : Type}

/-- Steps that are alike on a list give the same. -/
theorem mapM_congr {m : Type → Type} [Monad m] [LawfulMonad m] {f f' : α → m β} {l : List α}
    (h : ∀ a ∈ l, f a = f' a) : l.mapM f = l.mapM f' := by
  induction l with
  | nil => rfl
  | cons a l ih =>
    rw [List.mapM_cons, List.mapM_cons, h a List.mem_cons_self,
      ih fun b hb => h b (List.mem_cons_of_mem a hb)]

variable {f : α → Except ε β} {l : List α}

/-- **Steps succeed together** if each of them does. -/
theorem mapM_eq_ok_iff {bs : List β} :
    l.mapM f = .ok bs ↔ List.Forall₂ (fun a b => f a = .ok b) l bs := by
  induction l generalizing bs with
  | nil =>
    rw [List.mapM_nil, List.forall₂_nil_left_iff]
    exact ⟨fun h => (Except.ok.inj h).symm, fun h => h ▸ rfl⟩
  | cons a l ih =>
    rw [List.mapM_cons, List.forall₂_cons_left_iff]
    cases ha : f a with
    | error e => exact ⟨nofun, fun ⟨_, _, hb, _⟩ => nomatch hb⟩
    | ok b =>
      cases hl : l.mapM f with
      | error e =>
        refine ⟨nofun, fun ⟨_, bs, _, hbs, _⟩ => ?_⟩
        rw [ih.2 hbs] at hl
        cases hl
      | ok bs' =>
        constructor
        · rintro ⟨⟩
          exact ⟨b, bs', rfl, ih.1 hl, rfl⟩
        · rintro ⟨_, bs, ⟨⟩, hbs, rfl⟩
          rw [ih.2 hbs] at hl
          cases hl
          rfl

theorem exists_forall₂_iff {R : α → β → Prop} :
    (∃ bs, List.Forall₂ R l bs) ↔ ∀ a ∈ l, ∃ b, R a b := by
  induction l with
  | nil => simp
  | cons a l ih =>
    rw [List.forall_mem_cons, ← ih]
    constructor
    · rintro ⟨_, hall⟩
      obtain ⟨b, bs, hb, hbs, -⟩ := List.forall₂_cons_left_iff.1 hall
      exact ⟨⟨b, hb⟩, bs, hbs⟩
    · rintro ⟨⟨b, hb⟩, bs, hbs⟩
      exact ⟨b :: bs, .cons hb hbs⟩

/-- **The first step that fails decides.** -/
theorem mapM_eq_error_iff {e : ε} :
    l.mapM f = .error e ↔ ∃ before a after, l = before ++ a :: after ∧
      (∀ other ∈ before, ∃ b, f other = .ok b) ∧ f a = .error e := by
  induction l with
  | nil => simp [pure, Except.pure]
  | cons a l ih =>
    rw [List.mapM_cons]
    cases ha : f a with
    | error e' =>
      constructor
      · rintro ⟨⟩
        exact ⟨[], a, l, rfl, by simp, ha⟩
      · rintro ⟨before, first, after, hl, hbefore, hfirst⟩
        cases before with
        | nil =>
          obtain ⟨rfl, -⟩ := List.cons.inj hl
          rw [ha] at hfirst
          cases hfirst
          rfl
        | cons b before =>
          obtain ⟨rfl, -⟩ := List.cons.inj hl
          obtain ⟨b, hb⟩ := hbefore a List.mem_cons_self
          rw [ha] at hb
          cases hb
    | ok b =>
      have hrest : (do let bs ← l.mapM f; pure (b :: bs)) = Except.error e ↔
          l.mapM f = .error e := by
        cases l.mapM f with
        | error e' => exact Iff.rfl
        | ok bs => exact ⟨nofun, nofun⟩
      refine hrest.trans (ih.trans ?_)
      constructor
      · rintro ⟨before, first, after, rfl, hbefore, hfirst⟩
        exact ⟨a :: before, first, after, rfl, List.forall_mem_cons.2 ⟨⟨b, ha⟩, hbefore⟩, hfirst⟩
      · rintro ⟨before, first, after, hl, hbefore, hfirst⟩
        cases before with
        | nil =>
          obtain ⟨rfl, -⟩ := List.cons.inj hl
          rw [ha] at hfirst
          cases hfirst
        | cons c before =>
          obtain ⟨rfl, rfl⟩ := List.cons.inj hl
          exact ⟨before, first, after, rfl, (List.forall_mem_cons.1 hbefore).2, hfirst⟩

/-- Steps that all succeed give the list of what they give. -/
theorem mapM_eq_ok {g : α → β} (h : ∀ a ∈ l, f a = .ok (g a)) : l.mapM f = .ok (l.map g) :=
  mapM_eq_ok_iff.2 (List.forall₂_map_right_iff.2 (List.forall₂_same.2 h))

theorem exists_of_mapM_eq_ok {bs : List β} (h : l.mapM f = .ok bs) : ∀ a ∈ l, ∃ b, f a = .ok b :=
  exists_forall₂_iff.1 ⟨bs, mapM_eq_ok_iff.1 h⟩

/-- Steps that fail in one way only fail in this way if one of them does. -/
theorem mapM_eq_error {e : ε} (h : ∀ a ∈ l, f a = .error e ∨ ∃ b, f a = .ok b)
    (he : ∃ a ∈ l, f a = .error e) : l.mapM f = .error e := by
  cases hm : l.mapM f with
  | ok bs =>
    obtain ⟨a, ha, hae⟩ := he
    obtain ⟨b, hb⟩ := exists_of_mapM_eq_ok hm a ha
    rw [hae] at hb
    cases hb
  | error e' =>
    obtain ⟨before, a, after, rfl, -, hae⟩ := mapM_eq_error_iff.1 hm
    rcases h a (by simp) with ha | ⟨b, hb⟩
    · exact congrArg _ (Except.error.inj (hae.symm.trans ha))
    · rw [hb] at hae
      cases hae

end ExperimentGroups
