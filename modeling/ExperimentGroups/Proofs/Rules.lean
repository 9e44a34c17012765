import ExperimentGroups.Override.Basic
import ExperimentGroups.Proofs.Reply
import Mathlib.Data.Set.Subsingleton
import Mathlib.Order.Bounds.Basic

/-!
# What rules write

A rule either writes a value for a test or leaves it as it is. What it writes depends on the
definition of the test, and for a hold-out also on the effective value of the hold-out test, which
is the one thing it asks for. In a chain the last rule that writes decides, so the run of a chain
is known as soon as the runs of the tests that are asked for are.

## Main definitions

* `Definition.values`: the values that a definition declares
* `Override.Writes`: that a rule writes a value for a test
* `Override.Decides`: the value that the last rule to write one decides on
* `Override.written?`: the same, computed
* `Override.askedOf`: the tests that the rules ask for when they decide on a test
* `Override.presentHoldouts`: the hold-out tests of the rules that are in a snapshot

## Main results

* `Override.decides_iff`: `written?` computes what the last rule to write decides
* `Override.run_chain`: the run of a chain when what it asks for is answered
* `Override.run_chain_of_unending`: the run of a chain that asks for a test whose run never ends
-/

namespace ExperimentGroups

/-! ## Declared values -/

namespace Definition

/-- The values that a definition declares. -/
def values (d : Definition) : Set Int := {v | ∃ b ∈ d.buckets, b.value = v}

theorem isSome_bucket?_iff (d : Definition) (v : Int) : (d.bucket? v).isSome ↔ v ∈ d.values := by
  rw [Option.isSome_iff_exists, exists_bucket?_iff]
  rfl

/-- The lowest bucket has the least declared value. -/
theorem lowest?_value_iff (d : Definition) (v : Int) :
    d.lowest?.map Bucket.value = some v ↔ IsLeast d.values v := by
  constructor
  · intro h
    obtain ⟨b, hb, rfl⟩ := Option.map_eq_some_iff.1 h
    obtain ⟨hm, hle⟩ := lowest?_mem_le hb
    refine ⟨⟨b, hm, rfl⟩, ?_⟩
    rintro _ ⟨c, hc, rfl⟩
    exact hle c hc
  · rintro ⟨⟨c, hc, rfl⟩, hle⟩
    cases hl : d.lowest? with
    | none =>
      rw [lowest?_eq_none_iff] at hl
      simp [hl] at hc
    | some b =>
      obtain ⟨hm, hb⟩ := lowest?_mem_le hl
      exact congrArg some (le_antisymm (hb c hc) (hle ⟨b, hm, rfl⟩))

end Definition

namespace Override

variable (s : Snapshot) (values : String → Option Int) (test : String)

/-! ## What a rule writes -/

/-- **A rule writes a value** for a test, given the effective values: a pin its value, if the
definition of the test declares it; a hold-out the least declared value of any other test, while
the hold-out test is in the given bucket. -/
inductive Writes : Override → Int → Prop
  | pin {pins : Dict Int} {v : Int} {definition : Definition} (hpin : pins.get? test = some v)
    (hdefinition : s.definitions.get? test = some definition) (hv : v ∈ definition.values) :
    Writes (.pin pins) v
  | holdout {holdoutTest : String} {value v : Int} {definition : Definition}
    (hne : test ≠ holdoutTest) (hactive : values holdoutTest = some value)
    (hdefinition : s.definitions.get? test = some definition) (hv : IsLeast definition.values v) :
    Writes (.holdout holdoutTest value) v

/-- A hold-out writes a value for another test while the hold-out test is in the given bucket, if
the definition of the other test has a bucket. -/
theorem exists_writes_holdout_iff (holdoutTest : String) (value : Int) :
    (∃ v, Writes s values test (.holdout holdoutTest value) v) ↔
      test ≠ holdoutTest ∧ values holdoutTest = some value ∧
        ∃ definition, s.definitions.get? test = some definition ∧ definition.buckets ≠ [] := by
  constructor
  · rintro ⟨v, hv⟩
    cases hv with
    | holdout hne hactive hdefinition hleast =>
      obtain ⟨⟨b, hb, -⟩, -⟩ := hleast
      exact ⟨hne, hactive, _, hdefinition, List.ne_nil_of_mem hb⟩
  · rintro ⟨hne, hactive, definition, hdefinition, hbuckets⟩
    cases hl : definition.lowest? with
    | none => exact absurd ((definition.lowest?_eq_none_iff).1 hl) hbuckets
    | some b =>
      have hleast := (definition.lowest?_value_iff b.value).1 (by rw [hl, Option.map_some])
      exact ⟨b.value, .holdout hne hactive hdefinition hleast⟩

/-- **The last rule to write a value decides**; if none does, the determined value stays. -/
inductive Decides (determined : Int) : List Override → Int → Prop
  | none {rules : List Override} (hnone : ∀ rule ∈ rules, ∀ v, ¬ Writes s values test rule v) :
    Decides determined rules determined
  | last {before after : List Override} {rule : Override} {v : Int}
    (hrule : Writes s values test rule v)
    (hafter : ∀ later ∈ after, ∀ w, ¬ Writes s values test later w) :
    Decides determined (before ++ rule :: after) v

/-- The value that a rule writes, if it does. -/
def write? : Override → Option Int
  | .keep => none
  | .pin pins => (pins.get? test).filter fun v =>
    ((s.definitions.get? test).bind (·.bucket? v)).isSome
  | .holdout holdoutTest value =>
    if test ≠ holdoutTest ∧ values holdoutTest = some value then
      ((s.definitions.get? test).bind Definition.lowest?).map Bucket.value
    else none

/-- **The value that the last rule to write one writes**, if any does. -/
def written? : List Override → Option Int
  | [] => none
  | rule :: rules => (written? rules).or (write? s values test rule)

theorem writes_iff (rule : Override) (v : Int) :
    Writes s values test rule v ↔ write? s values test rule = some v := by
  constructor
  · rintro (⟨hpin, hdefinition, hv⟩ | ⟨hne, hactive, hdefinition, hv⟩)
    · simp [write?, hpin, hdefinition, Option.filter, (Definition.isSome_bucket?_iff _ _).2 hv]
    · simpa [write?, hne, hactive, hdefinition] using (Definition.lowest?_value_iff _ _).2 hv
  · intro h
    cases rule with
    | keep => simp [write?] at h
    | pin pins =>
      obtain ⟨hpin, hsome⟩ := Option.filter_eq_some_iff.1 h
      cases hd : s.definitions.get? test with
      | none => simp [hd] at hsome
      | some definition =>
        rw [hd, Option.bind_some] at hsome
        exact .pin hpin hd ((definition.isSome_bucket?_iff v).1 hsome)
    | holdout holdoutTest value =>
      simp only [write?] at h
      split at h
      · next hc =>
        cases hd : s.definitions.get? test with
        | none => simp [hd] at h
        | some definition =>
          rw [hd, Option.bind_some] at h
          exact .holdout hc.1 hc.2 hd ((definition.lowest?_value_iff v).1 h)
      · cases h

theorem written?_eq_none_iff (rules : List Override) :
    written? s values test rules = none ↔
      ∀ rule ∈ rules, ∀ v, ¬ Writes s values test rule v := by
  induction rules with
  | nil => simp [written?]
  | cons rule rules ih =>
    have hw : write? s values test rule = none ↔ ∀ v, ¬ Writes s values test rule v := by
      simp only [writes_iff, Option.eq_none_iff_forall_not_mem, Option.mem_def]
    rw [written?, Option.or_eq_none_iff, ih, hw, List.forall_mem_cons, and_comm]

theorem written?_append_cons_of_none {after : List Override}
    (h : written? s values test after = none) (before : List Override) {rule : Override} {v : Int}
    (hrule : write? s values test rule = some v) :
    written? s values test (before ++ rule :: after) = some v := by
  induction before with
  | nil => rw [List.nil_append, written?, h, hrule, Option.none_or]
  | cons first before ih => rw [List.cons_append, written?, ih, Option.some_or]

/-- What is written is written by the last rule that writes. -/
theorem exists_last_of_written? {rules : List Override} {v : Int}
    (h : written? s values test rules = some v) :
    ∃ before rule after, rules = before ++ rule :: after ∧ write? s values test rule = some v ∧
      written? s values test after = none := by
  induction rules with
  | nil => cases h
  | cons first rules ih =>
    cases hr : written? s values test rules with
    | none =>
      rw [written?, hr, Option.none_or] at h
      exact ⟨[], first, rules, rfl, h, hr⟩
    | some w =>
      rw [written?, hr, Option.some_or] at h
      obtain ⟨before, rule, after, rfl, hrule, hafter⟩ := ih (h ▸ hr)
      exact ⟨first :: before, rule, after, rfl, hrule, hafter⟩

/-- **`written?` computes what the last rule to write decides.** -/
theorem decides_iff (determined : Int) (rules : List Override) (v : Int) :
    Decides s values test determined rules v ↔
      (written? s values test rules).getD determined = v := by
  constructor
  · rintro (hnone | ⟨hrule, hafter⟩)
    · rw [(written?_eq_none_iff s values test rules).2 hnone, Option.getD_none]
    · have hnone := (written?_eq_none_iff s values test _).2 hafter
      have hsome := (writes_iff s values test _ _).1 hrule
      rw [written?_append_cons_of_none s values test hnone _ hsome, Option.getD_some]
  · rintro rfl
    cases hw : written? s values test rules with
    | none => exact .none ((written?_eq_none_iff s values test rules).1 hw)
    | some v =>
      obtain ⟨before, rule, after, rfl, hrule, hafter⟩ := exists_last_of_written? s values test hw
      exact .last ((writes_iff s values test rule v).2 hrule)
        ((written?_eq_none_iff s values test after).1 hafter)

/-- A written value is declared by the definition of the test. -/
theorem declared_of_written? {rules : List Override} {v : Int}
    (h : written? s values test rules = some v) :
    ∃ definition, s.definitions.get? test = some definition ∧ v ∈ definition.values := by
  obtain ⟨before, rule, after, -, hrule, -⟩ := exists_last_of_written? s values test h
  cases (writes_iff s values test rule v).2 hrule with
  | pin hpin hdefinition hv => exact ⟨_, hdefinition, hv⟩
  | holdout hne hactive hdefinition hv => exact ⟨_, hdefinition, hv.1⟩

/-! ## What a rule asks for -/

/-- The tests that a rule asks for when it decides on a test. -/
def asked : Override → List String
  | .holdout holdoutTest _ => if test = holdoutTest then [] else [holdoutTest]
  | _ => []

/-- **The tests that rules ask for** when they decide on a test, in order and with repetitions. -/
def askedOf (rules : List Override) : List String := rules.flatMap (asked test)

theorem mem_askedOf {rules : List Override} {name : String} :
    name ∈ askedOf test rules ↔ name ≠ test ∧ ∃ value, .holdout name value ∈ rules := by
  simp only [askedOf, List.mem_flatMap]
  constructor
  · rintro ⟨rule, hrule, hname⟩
    cases rule with
    | keep => simp [asked] at hname
    | pin pins => simp [asked] at hname
    | holdout holdoutTest value =>
      by_cases ht : test = holdoutTest
      · simp [asked, ht] at hname
      · obtain rfl : name = holdoutTest := by simpa [asked, ht] using hname
        exact ⟨fun h => ht h.symm, value, hrule⟩
  · rintro ⟨hne, value, hrule⟩
    exact ⟨_, hrule, by simp [asked, Ne.symm hne]⟩

/-- What rules write depends on the values of the tests that they ask for. -/
theorem written?_congr {values values' : String → Option Int} {rules : List Override}
    (h : ∀ name ∈ askedOf test rules, values name = values' name) :
    written? s values test rules = written? s values' test rules := by
  induction rules with
  | nil => rfl
  | cons rule rules ih =>
    have hrule : write? s values test rule = write? s values' test rule := by
      cases rule with
      | keep => rfl
      | pin pins => rfl
      | holdout holdoutTest value =>
        by_cases ht : test = holdoutTest
        · simp [write?, ht]
        · have hv := h holdoutTest ((mem_askedOf test).2
            ⟨fun e => ht e.symm, value, List.mem_cons_self⟩)
          simp [write?, hv]
    have hrules := ih fun name hm => h name (List.mem_append_right _ hm)
    rw [written?, written?, hrule, hrules]

/-- The hold-out tests of the rules that are in a snapshot. -/
def presentHoldouts (rules : List Override) : Set String :=
  {name | name ∈ s.buckets.keys ∧ ∃ value, .holdout name value ∈ rules}

/-! ## Runs -/

section Runs

variable {s test} {effective : String → Outcome (Option Int)}

theorem run_isActive {name : String} {answer : Traced (Option Int)}
    (h : effective name = .ok answer) (value : Int) :
    (Query.isActive name value).run effective =
      .ok ⟨decide (answer.value = some value), answer.log⟩ := by
  unfold Query.isActive
  rw [Query.run_bind, Query.ask, Query.run, h]
  obtain ⟨e, log⟩ := answer
  cases e with
  | none => simp [Outcome.andThen, Outcome.answer, Query.run, pure]
  | some e =>
    have hbeq : (e == value) = decide (e = value) := rfl
    simp [Outcome.andThen, Outcome.answer, Query.run, pure, hbeq]

/-- The run of a rule when what it asks for is answered. -/
theorem run_hook (bucket : Bucket) (rule : Override) {answers : String → Traced (Option Int)}
    (h : ∀ name ∈ asked test rule, effective name = .ok (answers name)) :
    (rule.hook s test bucket).run effective =
      .ok ⟨(write? s (fun name => (answers name).value) test rule).getD bucket.value,
        (asked test rule).flatMap fun name => (answers name).log⟩ := by
  cases rule with
  | keep => rfl
  | pin pins =>
    show Outcome.answer _ = _
    cases hp : pins.get? test with
    | none => simp [Outcome.answer, pinned, write?, asked, hp]
    | some v =>
      cases hb : (s.definitions.get? test).bind (·.bucket? v) <;>
        simp [Outcome.answer, pinned, write?, asked, hp, hb, Option.filter]
  | holdout holdoutTest value =>
    by_cases ht : test = holdoutTest
    · simp only [hook, write?, asked, ht, if_true, ne_eq, not_true_eq_false, false_and, if_false]
      rfl
    · have hask := run_isActive (h holdoutTest (by simp [asked, ht])) value
      simp only [hook, write?, asked, ht, if_false, Query.run_bind, hask, ne_eq, not_false_eq_true,
        true_and]
      by_cases hv : (answers holdoutTest).value = some value
      · cases hl : (s.definitions.get? test).bind Definition.lowest? <;>
          simp [Outcome.andThen, Outcome.answer, Query.run, pure, hv, heldOut, hl]
      · simp [Outcome.andThen, Outcome.answer, Query.run, pure, hv]

/-- **The run of a chain when what it asks for is answered**: what the last rule to write writes,
with the messages of everything that is asked for. -/
theorem run_chain {answers : String → Traced (Option Int)} (bucket : Bucket)
    {rules : List Override} (h : ∀ name ∈ askedOf test rules, effective name = .ok (answers name)) :
    (Hook.chain (rules.map hook) s test bucket).run effective =
      .ok ⟨(written? s (fun name => (answers name).value) test rules).getD bucket.value,
        (askedOf test rules).flatMap fun name => (answers name).log⟩ := by
  induction rules generalizing bucket with
  | nil => rfl
  | cons rule rules ih =>
    have hrule := run_hook (s := s) bucket rule fun name hm =>
      h name (List.mem_append_left _ hm)
    have hrules := fun bucket => ih bucket fun name hm => h name (List.mem_append_right _ hm)
    rw [List.map_cons, Hook.chain_cons, Query.run_bind, hrule]
    simp only [Outcome.andThen, hrules, written?, askedOf, List.flatMap_cons, List.flatMap_append]
    -- What the first rule writes counts only if no later one writes.
    cases written? s (fun name => (answers name).value) test rules <;> simp

/-- A rule ends if everything that it asks for does. -/
theorem exists_run_hook (bucket : Bucket) (rule : Override)
    (h : ∀ name ∈ asked test rule, ∃ answer, effective name = .ok answer) :
    ∃ t, (rule.hook s test bucket).run effective = .ok t := by
  have : Nonempty (Traced (Option Int)) := ⟨⟨none, []⟩⟩
  choose! answers hanswers using h
  exact ⟨_, run_hook bucket rule hanswers⟩

/-- A chain ends if everything that it asks for does. -/
theorem exists_run_chain (bucket : Bucket) {rules : List Override}
    (h : ∀ name ∈ askedOf test rules, ∃ answer, effective name = .ok answer) :
    ∃ t, (Hook.chain (rules.map hook) s test bucket).run effective = .ok t := by
  have : Nonempty (Traced (Option Int)) := ⟨⟨none, []⟩⟩
  choose! answers hanswers using h
  exact ⟨_, run_chain bucket hanswers⟩

/-- A rule that asks for a test whose run never ends does not end either. -/
theorem run_hook_of_unending (bucket : Bucket) {rule : Override} {name : String}
    (hm : name ∈ asked test rule) (h : effective name = .error .unending) :
    (rule.hook s test bucket).run effective = .error .unending := by
  cases rule with
  | keep => simp [asked] at hm
  | pin pins => simp [asked] at hm
  | holdout holdoutTest value =>
    by_cases ht : test = holdoutTest
    · simp [asked, ht] at hm
    · obtain rfl : name = holdoutTest := by simpa [asked, ht] using hm
      simp only [hook, ht, if_false, Query.isActive, Query.run_bind, Query.ask, Query.run, h,
        Outcome.andThen]

/-- **A chain that asks for a test whose run never ends** does not end either, whatever the other
rules write. -/
theorem run_chain_of_unending (bucket : Bucket) {rules : List Override}
    (hall : ∀ name ∈ askedOf test rules,
      effective name = .error .unending ∨ ∃ answer, effective name = .ok answer)
    (hex : ∃ name ∈ askedOf test rules, effective name = .error .unending) :
    (Hook.chain (rules.map hook) s test bucket).run effective = .error .unending := by
  induction rules generalizing bucket with
  | nil => simp [askedOf] at hex
  | cons rule rules ih =>
    rw [List.map_cons, Hook.chain_cons, Query.run_bind]
    by_cases hrule : ∃ name ∈ asked test rule, effective name = .error .unending
    · obtain ⟨name, hm, hname⟩ := hrule
      rw [run_hook_of_unending bucket hm hname]
      rfl
    · -- The first rule ends, so a later one asks for the test whose run does not.
      obtain ⟨t, ht⟩ := exists_run_hook (s := s) bucket rule fun name hm =>
        (hall name (List.mem_append_left _ hm)).resolve_left fun hname => hrule ⟨name, hm, hname⟩
      have hrest : ∃ name ∈ askedOf test rules, effective name = .error .unending := by
        obtain ⟨name, hm, hname⟩ := hex
        refine ⟨name, (List.mem_append.1 hm).resolve_left fun hm' => ?_, hname⟩
        exact hrule ⟨name, hm', hname⟩
      rw [ht]
      simp only [Outcome.andThen,
        ih { bucket with value := t.value } (fun name hm => hall name (List.mem_append_right _ hm))
          hrest]

end Runs

end Override

end ExperimentGroups
