import ExperimentGroups.Groups.Hook
import Mathlib.Data.Finset.Card

/-!
# Runs nested to every depth

A run of the hook that ends at some depth of nesting ends in the same way at every greater depth.
The tests whose run has not ended yet become fewer from one depth to the next, or stay the same for
ever, so the number of buckets is depth enough: `Groups.effective` decides whether the unbounded
recursion ends, and satisfies its equation.

## Main definitions

* `Outcome.Ends`, `Outcome.Extends`: a run that comes to an end, and one that gives what another
  gives if that one ends
* `Query.AsksOnly`: that a query asks for some tests only
* `Groups.openWithin`: the tests whose run has not ended at a depth

## Main results

* `Query.run_extends`: a query extends as the effective values do
* `Query.AsksOnly.ends_run`: a query ends if the tests that it asks for do
* `Groups.effectiveWithin_extends`: more depth extends every run
* `Groups.effectiveWithin_of_size_le`: from the number of buckets on, depth makes no difference
* `Groups.effective_eq_effectiveWithin`: a run that ends at any depth is the run in full
* `Groups.effective_of_present`: the equation of the recursion
-/

namespace ExperimentGroups

/-! ## Outcomes -/

namespace Outcome

variable {α β : Type}

/-- A run that comes to an end, with an answer or without. -/
def Ends (o : Outcome α) : Prop := o ≠ .error .unending

/-- **`o'` extends `o`**: it is `o` if `o` ends. -/
def Extends (o' o : Outcome α) : Prop := o.Ends → o' = o

theorem ends_ok (t : Traced α) : Ends (.ok t) := by simp [Ends]

theorem Extends.refl (o : Outcome α) : o.Extends o := fun _ => rfl

theorem Extends.trans {o₁ o₂ o₃ : Outcome α} (h : o₁.Extends o₂) (h' : o₂.Extends o₃) :
    o₁.Extends o₃ := by
  intro he
  have h₂ := h' he
  rw [h (h₂ ▸ he), h₂]

theorem Ends.of_andThen {o : Outcome α} {f : α → Outcome β} (h : (o.andThen f).Ends) :
    o.Ends := by
  rintro rfl
  exact h rfl

theorem Ends.of_reporting {message : Message} {o : Outcome α} (h : (o.reporting message).Ends) :
    o.Ends := by
  rintro rfl
  exact h rfl

theorem Ends.andThen {o : Outcome α} {f : α → Outcome β} (ho : o.Ends) (hf : ∀ a, (f a).Ends) :
    (o.andThen f).Ends := by
  intro hu
  cases o with
  | error h =>
    cases h with
    | unending => exact ho rfl
    | excess => cases hu
  | ok t =>
    refine hf t.value ?_
    cases hft : f t.value with
    | error h => simpa [Outcome.andThen, hft] using hu
    | ok u => simp [Outcome.andThen, hft] at hu

theorem Ends.reporting {o : Outcome α} (ho : o.Ends) (message : Message) :
    (o.reporting message).Ends := by
  intro hu
  cases o with
  | error h => exact ho hu
  | ok t => cases hu

theorem Ends.writing {o : Outcome α} (ho : o.Ends) (n : Int) : (o.writing n).Ends := by
  intro hu
  simp only [Outcome.writing] at hu
  split at hu
  · exact ho hu
  · cases hu

theorem Extends.andThen {o o' : Outcome α} {f f' : α → Outcome β} (ho : o'.Extends o)
    (hf : ∀ a, (f' a).Extends (f a)) : (o'.andThen f').Extends (o.andThen f) := by
  intro he
  rw [ho he.of_andThen]
  cases o with
  | error h => rfl
  | ok t =>
    have hft : (f t.value).Ends := by
      intro hu
      simp [Ends, Outcome.andThen, hu] at he
    simp only [Outcome.andThen, hf t.value hft]

theorem Extends.reporting {o o' : Outcome α} (message : Message) (ho : o'.Extends o) :
    (o'.reporting message).Extends (o.reporting message) := by
  intro he
  rw [ho he.of_reporting]

theorem Extends.writing {o o' : Outcome α} (n : Int) (ho : o'.Extends o) :
    (o'.writing n).Extends (o.writing n) := by
  intro he
  simp only [Outcome.writing] at he ⊢
  split
  · next hn =>
    rw [if_pos hn] at he
    exact ho he
  · rfl

end Outcome

/-- A query run against values that extend others extends the run against those. -/
theorem Query.run_extends {α : Type} {effective effective' : String → Outcome (Option Int)}
    (h : ∀ test, (effective' test).Extends (effective test)) (q : Query α) :
    (q.run effective').Extends (q.run effective) := by
  induction q with
  | answer a => exact .refl _
  | asking test next ih => exact (h test).andThen fun e => ih e
  | reporting message rest ih => exact ih.reporting message
  | writing n rest ih => exact ih.writing n

/-! ## What a query asks for -/

namespace Query

variable {α β : Type} {p : String → Prop}

/-- **A query asks for some tests only.** -/
def AsksOnly (p : String → Prop) : Query α → Prop
  | .answer _ => True
  | .asking test next => p test ∧ ∀ e, (next e).AsksOnly p
  | .reporting _ rest => rest.AsksOnly p
  | .writing _ rest => rest.AsksOnly p

theorem AsksOnly.bind {q : Query α} {f : α → Query β} (hq : q.AsksOnly p)
    (hf : ∀ a, (f a).AsksOnly p) : (q >>= f).AsksOnly p := by
  show (q.bind f).AsksOnly p
  induction q with
  | answer a => exact hf a
  | asking test next ih => exact ⟨hq.1, fun e => ih e (hq.2 e)⟩
  | reporting message rest ih => exact ih hq
  | writing n rest ih => exact ih hq

theorem asksOnly_pure (a : α) : (pure a : Query α).AsksOnly p := trivial

theorem asksOnly_ask {test : String} (h : p test) : (ask test).AsksOnly p :=
  ⟨h, fun _ => trivial⟩

theorem asksOnly_report (message : Message) : (report message).AsksOnly p := trivial

theorem asksOnly_write (ns : List Int) : (write ns).AsksOnly p := by
  induction ns with
  | nil => trivial
  | cons n ns ih => exact ih

/-- A query ends if the runs of the tests that it asks for do. -/
theorem AsksOnly.ends_run {q : Query α} (hq : q.AsksOnly p)
    {effective : String → Outcome (Option Int)} (h : ∀ test, p test → (effective test).Ends) :
    (q.run effective).Ends := by
  induction q with
  | answer a => exact Outcome.ends_ok _
  | asking test next ih => exact (h test hq.1).andThen fun e => ih e (hq.2 e)
  | reporting message rest ih => exact (ih hq).reporting message
  | writing n rest ih => exact (ih hq).writing n

end Query

namespace Groups

variable (g : Groups)

/-! ## More depth -/

theorem effectiveWithin_of_absent {test : String} (h : g.snapshot.buckets.get? test = none)
    (depth : Nat) : g.effectiveWithin depth test = .answer none := by
  cases depth <;> simp [effectiveWithin, h]

theorem effectiveWithin_zero_of_present {test : String} {bucket : Bucket}
    (h : g.snapshot.buckets.get? test = some bucket) :
    g.effectiveWithin 0 test = .error .unending := by
  simp [effectiveWithin, h]

theorem effectiveWithin_succ_of_present {test : String} {bucket : Bucket}
    (h : g.snapshot.buckets.get? test = some bucket) (depth : Nat) :
    g.effectiveWithin (depth + 1) test =
      ((g.hook g.snapshot test bucket).run (g.effectiveWithin depth)).andThen fun value =>
        .ok ⟨some value, overrideLog test bucket.value value⟩ := by
  simp [effectiveWithin, h]

theorem effectiveWithin_succ_extends (depth : Nat) (test : String) :
    (g.effectiveWithin (depth + 1) test).Extends (g.effectiveWithin depth test) := by
  induction depth generalizing test with
  | zero =>
    cases h : g.snapshot.buckets.get? test with
    | none =>
      rw [effectiveWithin_of_absent g h, effectiveWithin_of_absent g h]
      exact .refl _
    | some bucket =>
      -- At depth zero no test with a bucket ends, so there is nothing to extend.
      intro he
      exact absurd (g.effectiveWithin_zero_of_present h) he
  | succ depth ih =>
    cases h : g.snapshot.buckets.get? test with
    | none =>
      rw [effectiveWithin_of_absent g h, effectiveWithin_of_absent g h]
      exact .refl _
    | some bucket =>
      rw [effectiveWithin_succ_of_present g h, effectiveWithin_succ_of_present g h]
      exact (Query.run_extends ih _).andThen fun value => .refl _

/-- **More depth extends every run.** -/
theorem effectiveWithin_extends {depth depth' : Nat} (h : depth ≤ depth') (test : String) :
    (g.effectiveWithin depth' test).Extends (g.effectiveWithin depth test) := by
  induction h with
  | refl => exact .refl _
  | step _ ih => exact (g.effectiveWithin_succ_extends _ test).trans ih

/-! ## Depth enough -/

open Classical in
/-- The tests whose run has not ended at a depth. -/
noncomputable def openWithin (depth : Nat) : Finset String :=
  g.snapshot.buckets.keys.toFinset.filter fun test => ¬ (g.effectiveWithin depth test).Ends

theorem mem_openWithin (depth : Nat) (test : String) :
    test ∈ g.openWithin depth ↔
      test ∈ g.snapshot.buckets.keys ∧ ¬ (g.effectiveWithin depth test).Ends := by
  simp [openWithin]

theorem openWithin_succ_subset (depth : Nat) : g.openWithin (depth + 1) ⊆ g.openWithin depth := by
  intro test h
  rw [mem_openWithin] at h ⊢
  refine ⟨h.1, fun he => h.2 ?_⟩
  rw [g.effectiveWithin_succ_extends depth test he]
  exact he

theorem card_openWithin_le (depth : Nat) :
    (g.openWithin depth).card ≤ g.snapshot.buckets.size := by
  have hs : g.openWithin depth ⊆ g.snapshot.buckets.keys.toFinset := fun test h =>
    List.mem_toFinset.2 ((g.mem_openWithin depth test).1 h).1
  refine (Finset.card_le_card hs).trans ((List.toFinset_card_le _).trans ?_)
  simp [Dict.keys, Dict.size]

/-- If no run ends that was open before, nothing changes. -/
theorem effectiveWithin_succ_of_openWithin {depth : Nat}
    (h : g.openWithin (depth + 1) = g.openWithin depth) :
    g.effectiveWithin (depth + 1) = g.effectiveWithin depth := by
  funext test
  cases hb : g.snapshot.buckets.get? test with
  | none => rw [effectiveWithin_of_absent g hb, effectiveWithin_of_absent g hb]
  | some bucket =>
    by_cases he : (g.effectiveWithin depth test).Ends
    · exact g.effectiveWithin_succ_extends depth test he
    · -- An open test stays open, and the runs of open tests are all the same.
      have hm : test ∈ g.openWithin depth :=
        (g.mem_openWithin depth test).2 ⟨Dict.mem_keys_of_get? hb, he⟩
      have hm' := (g.mem_openWithin (depth + 1) test).1 (h ▸ hm)
      rw [Outcome.Ends, not_not] at he hm'
      rw [he, hm'.2]

theorem effectiveWithin_succ_succ {depth : Nat}
    (h : g.effectiveWithin (depth + 1) = g.effectiveWithin depth) :
    g.effectiveWithin (depth + 2) = g.effectiveWithin (depth + 1) := by
  funext test
  cases hb : g.snapshot.buckets.get? test with
  | none => rw [effectiveWithin_of_absent g hb, effectiveWithin_of_absent g hb]
  | some bucket =>
    rw [effectiveWithin_succ_of_present g hb, effectiveWithin_succ_of_present g hb, h]

theorem stable_or_card_openWithin_lt (depth : Nat) :
    g.effectiveWithin (depth + 1) = g.effectiveWithin depth ∨
      (g.openWithin (depth + 1)).card < (g.openWithin depth).card := by
  rcases (g.openWithin_succ_subset depth).eq_or_ssubset with h | h
  · exact .inl (g.effectiveWithin_succ_of_openWithin h)
  · exact .inr (Finset.card_lt_card h)

/-- At every depth the runs have become stable, or each depth so far has ended one more. -/
theorem stable_or_card_openWithin_add_le (depth : Nat) :
    g.effectiveWithin (depth + 1) = g.effectiveWithin depth ∨
      (g.openWithin (depth + 1)).card + (depth + 1) ≤ g.snapshot.buckets.size := by
  induction depth with
  | zero =>
    have hle := g.card_openWithin_le 0
    exact (g.stable_or_card_openWithin_lt 0).imp_right fun h => by omega
  | succ depth ih =>
    rcases ih with ih | ih
    · exact .inl (g.effectiveWithin_succ_succ ih)
    · exact (g.stable_or_card_openWithin_lt (depth + 1)).imp_right fun h => by omega

theorem effectiveWithin_size_succ :
    g.effectiveWithin (g.snapshot.buckets.size + 1) =
      g.effectiveWithin g.snapshot.buckets.size := by
  rcases g.stable_or_card_openWithin_add_le g.snapshot.buckets.size with h | h
  · exact h
  · -- More runs would have ended than there are buckets.
    omega

/-- **The number of buckets is depth enough**: beyond it no run changes. -/
theorem effectiveWithin_of_size_le {depth : Nat} (h : g.snapshot.buckets.size ≤ depth) :
    g.effectiveWithin depth = g.effective := by
  -- Once stable, the runs are stable from then on.
  have hs : ∀ n, g.effectiveWithin (g.snapshot.buckets.size + (n + 1)) =
      g.effectiveWithin (g.snapshot.buckets.size + n) := by
    intro n
    induction n with
    | zero => exact g.effectiveWithin_size_succ
    | succ n ih => exact g.effectiveWithin_succ_succ ih
  obtain ⟨n, rfl⟩ := Nat.exists_eq_add_of_le h
  induction n with
  | zero => rfl
  | succ n ih => rw [hs, ih (Nat.le_add_right _ _)]

/-! ## The unbounded recursion -/

theorem effective_extends (depth : Nat) (test : String) :
    (g.effective test).Extends (g.effectiveWithin depth test) := by
  rw [← g.effectiveWithin_of_size_le (Nat.le_add_right g.snapshot.buckets.size depth)]
  exact g.effectiveWithin_extends (Nat.le_add_left depth _) test

/-- **A run that ends at any depth is the run in full.** -/
theorem effective_eq_effectiveWithin {depth : Nat} {test : String}
    (h : (g.effectiveWithin depth test).Ends) :
    g.effective test = g.effectiveWithin depth test :=
  g.effective_extends depth test h

/-- **The equation of the recursion**: the hook of a test with a bucket runs against the effective
values themselves. -/
theorem effective_of_present {test : String} {bucket : Bucket}
    (h : g.snapshot.buckets.get? test = some bucket) :
    g.effective test =
      (g.run (g.hook g.snapshot test bucket)).andThen fun value =>
        .ok ⟨some value, overrideLog test bucket.value value⟩ := by
  rw [run, ← g.effectiveWithin_of_size_le (Nat.le_succ _), effectiveWithin_succ_of_present g h,
    g.effectiveWithin_of_size_le (Nat.le_refl _), g.effectiveWithin_of_size_le (Nat.le_succ _)]

end Groups

end ExperimentGroups
