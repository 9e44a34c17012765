import ExperimentGroups.Proofs.Rules

/-!
# When rules come to an end

A hold-out asks for the effective value of its hold-out test, which runs all rules for that test.
If a snapshot has at most one of the hold-out tests, nothing is asked for that test, and two nested
runs are enough for any other. If it has two, the run of any test asks for one of them and so on,
and no depth of nesting is enough.

## Main definitions

* `Override.groups`: a snapshot with the rules of a plan
* `Override.sample`: a snapshot with a hold-out test and another test

## Main results

* `Override.effectiveWithin_two`: at most one present hold-out test ends every run at depth two
* `Override.effectiveWithin_unending`: two of them end no run at any depth
* `Override.value_ends_iff`: runs end exactly if at most one hold-out test is present
-/

namespace ExperimentGroups

namespace Override

/-- **A snapshot with the rules of a plan.** -/
def groups (s : Snapshot) (plan? : Option (Plan Override)) : Groups := ⟨s, hookOf plan?⟩

variable {s : Snapshot} {plan? : Option (Plan Override)}

/-! ## One step -/

/-- A run that is nested once more: the rules of the plan, from left to right. -/
theorem effectiveWithin_succ {test : String} {bucket : Bucket}
    (h : s.buckets.get? test = some bucket) (depth : Nat) :
    (groups s plan?).effectiveWithin (depth + 1) test =
      ((Hook.chain ((rules plan?).map hook) s test bucket).run
        ((groups s plan?).effectiveWithin depth)).andThen fun value =>
          .ok ⟨some value, Groups.overrideLog test bucket.value value⟩ := by
  rw [(groups s plan?).effectiveWithin_succ_of_present h depth]
  simp only [groups, hookOf_eq_chain]

/-- A test ends one level above the tests that its rules ask for. -/
theorem exists_effectiveWithin_succ {test : String} {depth : Nat}
    (h : ∀ name ∈ askedOf test (rules plan?),
      ∃ answer, (groups s plan?).effectiveWithin depth name = .ok answer) :
    ∃ answer, (groups s plan?).effectiveWithin (depth + 1) test = .ok answer := by
  cases hb : s.buckets.get? test with
  | none => exact ⟨_, (groups s plan?).effectiveWithin_of_absent hb (depth + 1)⟩
  | some bucket =>
    obtain ⟨t, ht⟩ := exists_run_chain (s := s) bucket h
    exact ⟨_, by rw [effectiveWithin_succ hb, ht]; rfl⟩

/-! ## One hold-out test -/

/-- **At most one present hold-out test ends every run at depth two**: the hold-out test itself asks
for absent tests only, and every other test asks for it and for absent tests. -/
theorem effectiveWithin_two (h : (presentHoldouts s (rules plan?)).Subsingleton) (test : String) :
    ∃ answer, (groups s plan?).effectiveWithin 2 test = .ok answer := by
  have habsent : ∀ name depth, name ∉ s.buckets.keys →
      ∃ answer, (groups s plan?).effectiveWithin depth name = .ok answer := fun name depth hn =>
    ⟨_, (groups s plan?).effectiveWithin_of_absent ((s.buckets.get?_eq_none_iff name).2 hn) depth⟩
  -- A hold-out test asks for other hold-out tests, and none of those is present.
  have hholdout : ∀ name ∈ presentHoldouts s (rules plan?),
      ∃ answer, (groups s plan?).effectiveWithin 1 name = .ok answer := by
    intro name hname
    refine exists_effectiveWithin_succ fun other hother => habsent other 0 fun hkey => ?_
    obtain ⟨hne, value, hrule⟩ := (mem_askedOf name).1 hother
    exact hne (h ⟨hkey, value, hrule⟩ hname)
  refine exists_effectiveWithin_succ fun name hname => ?_
  by_cases hkey : name ∈ s.buckets.keys
  · exact hholdout name ⟨hkey, ((mem_askedOf test).1 hname).2⟩
  · exact habsent name 1 hkey

theorem effective_eq_effectiveWithin_two (h : (presentHoldouts s (rules plan?)).Subsingleton)
    (test : String) :
    (groups s plan?).effective test = (groups s plan?).effectiveWithin 2 test := by
  obtain ⟨answer, ha⟩ := effectiveWithin_two h test
  exact (groups s plan?).effective_eq_effectiveWithin (ha ▸ Outcome.ends_ok answer)

/-- With at most one present hold-out test, every test has an effective value. -/
theorem resolves (h : (presentHoldouts s (rules plan?)).Subsingleton) :
    (groups s plan?).Resolves := by
  intro test _
  rw [effective_eq_effectiveWithin_two h]
  exact effectiveWithin_two h test

/-! ## Two hold-out tests -/

/-- **Two present hold-out tests end no run at any depth**: one of them is another test than the one
that is run, so it is asked for. -/
theorem effectiveWithin_unending (h : ¬ (presentHoldouts s (rules plan?)).Subsingleton)
    (depth : Nat) {test : String} (ht : test ∈ s.buckets.keys) :
    (groups s plan?).effectiveWithin depth test = .error .unending := by
  induction depth generalizing test with
  | zero =>
    obtain ⟨bucket, hb⟩ := (s.buckets.mem_keys_iff test).1 ht
    exact (groups s plan?).effectiveWithin_zero_of_present hb
  | succ depth ih =>
    obtain ⟨bucket, hb⟩ := (s.buckets.mem_keys_iff test).1 ht
    -- Present tests are open by induction, absent ones are answered.
    have hall : ∀ name ∈ askedOf test (rules plan?),
        (groups s plan?).effectiveWithin depth name = .error .unending ∨
          ∃ answer, (groups s plan?).effectiveWithin depth name = .ok answer := by
      intro name _
      by_cases hkey : name ∈ s.buckets.keys
      · exact .inl (ih hkey)
      · exact .inr ⟨_, (groups s plan?).effectiveWithin_of_absent
          ((s.buckets.get?_eq_none_iff name).2 hkey) depth⟩
    -- Of the two hold-out tests one is another test than this one.
    have hex : ∃ name ∈ askedOf test (rules plan?),
        (groups s plan?).effectiveWithin depth name = .error .unending := by
      rw [Set.not_subsingleton_iff] at h
      obtain ⟨name, ⟨hkey, hrule⟩, hne⟩ := h.exists_ne test
      exact ⟨name, (mem_askedOf test).2 ⟨hne, hrule⟩, ih hkey⟩
    rw [effectiveWithin_succ hb, run_chain_of_unending bucket hall hex]
    rfl

/-! ## Plans for a hold-out and pins -/

/-- The plan for a hold-out and pins has the hold-out first, then the pins. -/
theorem rules_plan (holdoutTest : Option String) (holdoutValue : Int) (pins : Dict Int) :
    rules (Override.plan holdoutTest holdoutValue pins) =
      ((holdoutTest.filter (!·.isEmpty)).map (.holdout · holdoutValue)).toList ++
        if pins.isEmpty then [] else [.pin pins] := by
  unfold Override.plan
  cases holdoutTest.filter (!·.isEmpty) <;> cases pins.isEmpty <;>
    simp [rules, Plan.leaves, Plan.leavesOf]

/-- Such a plan has one hold-out test at most. -/
theorem presentHoldouts_plan (s : Snapshot) (holdoutTest : Option String) (holdoutValue : Int)
    (pins : Dict Int) :
    (presentHoldouts s (rules (Override.plan holdoutTest holdoutValue pins))).Subsingleton := by
  have hmem : ∀ name value,
      .holdout name value ∈ rules (Override.plan holdoutTest holdoutValue pins) →
        holdoutTest = some name := by
    intro name value hrule
    rw [rules_plan] at hrule
    cases holdoutTest <;> cases hp : pins.isEmpty <;>
      simp_all [Option.filter]
  rintro name ⟨-, value, hrule⟩ name' ⟨-, value', hrule'⟩
  exact Option.some.inj ((hmem name value hrule).symm.trans (hmem name' value' hrule'))

/-! ## Values -/

theorem run_value (effective : String → Outcome (Option Int)) (test : String) (default : Int) :
    (Query.value test default).run effective =
      (effective test).andThen fun e => .answer (e.getD default) := by
  rw [Query.value, Query.run_bind, Query.ask, Query.run]
  cases effective test with
  | error h => rfl
  | ok t => simp [Outcome.andThen, Outcome.answer, Query.run, pure]

theorem exists_run_value {effective : String → Outcome (Option Int)} {test : String}
    (h : ∃ answer, effective test = .ok answer) (default : Int) :
    ∃ t, (Query.value test default).run effective = .ok t := by
  obtain ⟨⟨e, log⟩, ha⟩ := h
  exact ⟨⟨e.getD default, log⟩, by simp [run_value, ha, Outcome.andThen, Outcome.answer]⟩

/-- With at most one present hold-out test, every value is found at depth two. -/
theorem exists_run_value_two (h : (presentHoldouts s (rules plan?)).Subsingleton) (test : String)
    (default : Int) :
    ∃ t, (Query.value test default).run ((groups s plan?).effectiveWithin 2) = .ok t ∧
      (groups s plan?).run (.value test default) = .ok t := by
  obtain ⟨t, hrun⟩ := exists_run_value (effectiveWithin_two h test) default
  refine ⟨t, hrun, ?_⟩
  rw [Groups.run, run_value, effective_eq_effectiveWithin_two h, ← run_value, hrun]

/-- With two present hold-out tests, no value of a test in the snapshot is found at any depth. -/
theorem run_value_unending (h : ¬ (presentHoldouts s (rules plan?)).Subsingleton) {test : String}
    (ht : test ∈ s.buckets.keys) (default : Int) (depth : Nat) :
    (Query.value test default).run ((groups s plan?).effectiveWithin depth) =
      .error .unending := by
  rw [run_value, effectiveWithin_unending h depth ht]
  rfl

theorem exists_ends_run_value_iff {test : String} (ht : test ∈ s.buckets.keys) (default : Int) :
    (∃ depth, ((Query.value test default).run ((groups s plan?).effectiveWithin depth)).Ends) ↔
      (presentHoldouts s (rules plan?)).Subsingleton := by
  constructor
  · rintro ⟨depth, hends⟩
    by_contra h
    exact hends (run_value_unending h ht default depth)
  · intro h
    obtain ⟨t, hrun, -⟩ := exists_run_value_two h test default
    exact ⟨2, hrun ▸ Outcome.ends_ok t⟩

/-- A query about tests that are not in the snapshot ends at once. -/
theorem ends_run_of_absent {α : Type} {q : Query α} (hq : q.AsksOnly (· ∉ s.buckets.keys))
    (depth : Nat) : (q.run ((groups s plan?).effectiveWithin depth)).Ends := by
  refine hq.ends_run fun test ht => ?_
  rw [(groups s plan?).effectiveWithin_of_absent ((s.buckets.get?_eq_none_iff test).2 ht)]
  exact Outcome.ends_ok _

variable (s plan?)

/-- **Runs end exactly if at most one hold-out test is present.** The value of a test in the
snapshot is then found with hooks that are nested at most twice; otherwise no depth finds it, and
the recursion does not end. Queries about a test that is not in the snapshot end at once. So every
plan for a hold-out and pins ends, and no plan that has hold-outs on two tests of the snapshot. -/
theorem value_ends_iff :
    (∀ test ∈ s.buckets.keys, ∀ default,
      ((∃ depth, ((Query.value test default).run ((groups s plan?).effectiveWithin depth)).Ends) ↔
        (presentHoldouts s (rules plan?)).Subsingleton) ∧
      ((presentHoldouts s (rules plan?)).Subsingleton →
        ∃ t, (Query.value test default).run ((groups s plan?).effectiveWithin 2) = .ok t ∧
          (groups s plan?).run (.value test default) = .ok t) ∧
      (¬ (presentHoldouts s (rules plan?)).Subsingleton →
        (groups s plan?).run (.value test default) = .error .unending)) ∧
    (∀ test ∉ s.buckets.keys, ∀ depth,
      (∀ default, (Query.value test default).run ((groups s plan?).effectiveWithin depth) =
        .answer default) ∧
      (∀ value default, ((Query.isActive test value default).run
        ((groups s plan?).effectiveWithin depth)).Ends) ∧
      ((Query.bucket s test).run ((groups s plan?).effectiveWithin depth)).Ends ∧
      ∀ fallback,
        ((Query.payload s test fallback).run ((groups s plan?).effectiveWithin depth)).Ends ∧
        ((Query.description s test fallback).run ((groups s plan?).effectiveWithin depth)).Ends) ∧
    (∀ holdoutTest holdoutValue pins test default,
      ∃ t, (Query.value test default).run
        ((groups s (Override.plan holdoutTest holdoutValue pins)).effectiveWithin 2) = .ok t) ∧
    (∀ name name' value value', name ≠ name' → name ∈ s.buckets.keys → name' ∈ s.buckets.keys →
      .holdout name value ∈ rules plan? → .holdout name' value' ∈ rules plan? →
      ∀ test ∈ s.buckets.keys, ∀ default depth,
        (Query.value test default).run ((groups s plan?).effectiveWithin depth) =
          .error .unending) := by
  refine ⟨fun test ht default => ⟨exists_ends_run_value_iff ht default, fun h => ?_, fun h => ?_⟩,
    fun test ht depth => ⟨fun default => ?_, fun value default => ?_, ?_, fun fallback => ⟨?_, ?_⟩⟩,
    ?_, ?_⟩
  · exact exists_run_value_two h test default
  · exact run_value_unending h ht default s.buckets.size
  · rw [run_value, (groups s plan?).effectiveWithin_of_absent
      ((s.buckets.get?_eq_none_iff test).2 ht)]
    rfl
  · exact ends_run_of_absent (Query.asksOnly_isActive ht value default) depth
  · exact ends_run_of_absent (Query.asksOnly_bucket ht s) depth
  · exact ends_run_of_absent (Query.asksOnly_payload ht s fallback) depth
  · exact ends_run_of_absent (Query.asksOnly_description ht s fallback) depth
  · intro holdoutTest holdoutValue pins test default
    exact exists_run_value
      (effectiveWithin_two (presentHoldouts_plan s holdoutTest holdoutValue pins) test) default
  · intro name name' value value' hne hkey hkey' hrule hrule' test ht
    refine run_value_unending (fun h => hne ?_) ht
    exact h ⟨hkey, value, hrule⟩ ⟨hkey', value', hrule'⟩

/-! ## A hold-out test and another test -/

/-- A definition that declares some values. -/
def declaring (values : List Int) : Definition :=
  ⟨"", "", none, none, none, .empty, values.map .bare, []⟩

/-- **A hold-out test and another test**, both in bucket one. -/
def sample : Snapshot :=
  ⟨"", .ofList [("hold", .bare 1), ("page", .bare 1)], .empty,
    .ofList [("hold", declaring [1, 2]), ("page", declaring [0, 1, 2])]⟩

/-- A hold-out on each test of the snapshot. -/
def opposed : Option (Plan Override) :=
  some (.chain [.rule (.holdout "hold" 1), .rule (.holdout "page" 1)])

/-- A hold-out on one test ends, hold-outs on both do not. -/
theorem value_ends_iff_sample :
    (∃ t, (Query.value "page" 0).run
        ((groups sample (Override.plan (some "hold") 1 .empty)).effectiveWithin 2) = .ok t ∧
      (groups sample (Override.plan (some "hold") 1 .empty)).run (.value "page" 0) = .ok t) ∧
    ∀ depth, (Query.value "page" 0).run ((groups sample opposed).effectiveWithin depth) =
      .error .unending := by
  have hhold : "hold" ∈ sample.buckets.keys := by decide
  have hpage : "page" ∈ sample.buckets.keys := by decide
  obtain ⟨hpresent, -⟩ := value_ends_iff sample (Override.plan (some "hold") 1 .empty)
  obtain ⟨-, -, -, hopposed⟩ := value_ends_iff sample opposed
  refine ⟨(hpresent "page" hpage 0).2.1 (presentHoldouts_plan _ _ _ _), fun depth => ?_⟩
  exact hopposed "hold" "page" 1 1 (by decide) hhold hpage (by decide) (by decide) "page" hpage 0
    depth

end Override

end ExperimentGroups
