import ExperimentGroups.Proofs.Termination

/-!
# The last rule that writes decides

The effective value of a test is what the last rule to write a value for it writes. A hold-out looks
at the effective value of its hold-out test, so a pin on that test turns the hold-out on or off for
all other tests, also where the pin comes later.

## Main results

* `Override.valueOf_eq`: the equation of the effective values
* `Override.last_rule_decides`: the last rule that writes decides; pins win over the hold-out, and a
  pin on the hold-out test turns it on or off
-/

namespace ExperimentGroups

namespace Override

variable {s : Snapshot} {plan? : Option (Plan Override)}

/-! ## The equation of the effective values -/

/-- With at most one present hold-out test, the run of a test is the run of its rules, answered by
the effective values. -/
theorem effective_eq_chain (h : (presentHoldouts s (rules plan?)).Subsingleton) {test : String}
    {bucket : Bucket} (hb : s.buckets.get? test = some bucket) :
    ∃ log, (groups s plan?).effective test =
      .ok ⟨some ((written? s (groups s plan?).valueOf test (rules plan?)).getD bucket.value),
        log⟩ := by
  choose logs hlogs using (resolves h).exists_effective
  have hhook : (groups s plan?).hook = Hook.chain ((rules plan?).map hook) := hookOf_eq_chain plan?
  rw [(groups s plan?).effective_of_present hb, Groups.run, hhook]
  show ∃ log, ((Hook.chain ((rules plan?).map hook) s test bucket).run _).andThen _ = _
  rw [run_chain bucket fun name _ => hlogs name]
  exact ⟨_, rfl⟩

/-- **The equation of the effective values**: what the last rule to write writes, or else the
determined value. -/
theorem valueOf_eq (h : (presentHoldouts s (rules plan?)).Subsingleton) {test : String}
    {bucket : Bucket} (hb : s.buckets.get? test = some bucket) :
    (groups s plan?).valueOf test =
      some ((written? s (groups s plan?).valueOf test (rules plan?)).getD bucket.value) := by
  obtain ⟨log, hrun⟩ := effective_eq_chain h hb
  rw [Groups.valueOf, hrun]
  rfl

/-! ## A hold-out and pins -/

/-- Of a hold-out and pins, the pins write last. -/
theorem written?_plan (values : String → Option Int) (test : String) {holdoutTest : String}
    (hname : holdoutTest ≠ "") (holdoutValue : Int) (pins : Dict Int) :
    written? s values test (rules (Override.plan (some holdoutTest) holdoutValue pins)) =
      (write? s values test (.pin pins)).or
        (write? s values test (.holdout holdoutTest holdoutValue)) := by
  have hempty : pins.isEmpty → write? s values test (.pin pins) = none := by
    intro he
    have hentries : pins.entries = [] := List.isEmpty_iff.1 he
    simp [write?, Dict.get?, hentries, Dict.findEntry]
  have hfilter : (some holdoutTest).filter (!·.isEmpty) = some holdoutTest := by
    simp [Option.filter, hname]
  rw [rules_plan, hfilter]
  cases hp : pins.isEmpty with
  | false => simp [written?]
  | true => simp [written?, hempty hp]

variable (s)

/-- A pin on a present test has its way. -/
theorem valueOf_of_pin {holdoutTest : String} (hname : holdoutTest ≠ "") (holdoutValue : Int)
    (pins : Dict Int) {test : String} {v : Int} (ht : test ∈ s.buckets.keys)
    (hv : Writes s (groups s (Override.plan (some holdoutTest) holdoutValue pins)).valueOf test
      (.pin pins) v) :
    (groups s (Override.plan (some holdoutTest) holdoutValue pins)).valueOf test = some v := by
  obtain ⟨bucket, hb⟩ := (s.buckets.mem_keys_iff test).1 ht
  rw [valueOf_eq (presentHoldouts_plan s _ _ _) hb, written?_plan _ _ hname,
    (writes_iff _ _ _ _ _).1 hv, Option.some_or, Option.getD_some]

/-- A test without a pin of its own is held out exactly while the hold-out test is in the given
bucket. -/
theorem valueOf_of_holdout {holdoutTest : String} (hname : holdoutTest ≠ "") (holdoutValue : Int)
    (pins : Dict Int) {test : String} {bucket : Bucket} {definition : Definition} {low : Int}
    (hb : s.buckets.get? test = some bucket) (hne : test ≠ holdoutTest)
    (hdefinition : s.definitions.get? test = some definition)
    (hlow : IsLeast definition.values low)
    (hpin : ∀ v, ¬ Writes s
      (groups s (Override.plan (some holdoutTest) holdoutValue pins)).valueOf test (.pin pins) v) :
    (groups s (Override.plan (some holdoutTest) holdoutValue pins)).valueOf test =
      some (if (groups s (Override.plan (some holdoutTest) holdoutValue pins)).valueOf holdoutTest =
        some holdoutValue then low else bucket.value) := by
  have hnone := (written?_eq_none_iff s
    (groups s (Override.plan (some holdoutTest) holdoutValue pins)).valueOf test [.pin pins]).2
    (by simpa using hpin)
  rw [written?, written?, Option.none_or] at hnone
  rw [valueOf_eq (presentHoldouts_plan s _ _ _) hb, written?_plan _ _ hname, hnone, Option.none_or]
  by_cases hactive : (groups s (Override.plan (some holdoutTest) holdoutValue pins)).valueOf
      holdoutTest = some holdoutValue
  · rw [(writes_iff _ _ _ _ _).1 (.holdout hne hactive hdefinition hlow), if_pos hactive,
      Option.getD_some]
  · simp [write?, hactive]

/-- **The last rule that writes decides** the effective value of every test in the snapshot, if at
most one hold-out test is present. A hold-out writes for another test while the effective value of
the hold-out test is the given one. In a plan for a hold-out and pins, the pins win over the
hold-out, and a pin on the hold-out test turns the hold-out on or off for all other tests. -/
theorem last_rule_decides (plan? : Option (Plan Override))
    (h : (presentHoldouts s (rules plan?)).Subsingleton) :
    (∀ test bucket, s.buckets.get? test = some bucket →
      ∃ e log, (groups s plan?).effective test = .ok ⟨some e, log⟩ ∧
        ∀ v, Decides s (groups s plan?).valueOf test bucket.value (rules plan?) v ↔ v = e) ∧
    (∀ test holdoutTest value,
      (∃ v, Writes s (groups s plan?).valueOf test (.holdout holdoutTest value) v) ↔
        test ≠ holdoutTest ∧ holdoutTest ∈ s.buckets.keys ∧
          (groups s plan?).valueOf holdoutTest = some value ∧
          ∃ definition, s.definitions.get? test = some definition ∧ definition.buckets ≠ []) ∧
    ∀ holdoutTest holdoutValue pins g, holdoutTest ≠ "" →
      g = groups s (Override.plan (some holdoutTest) holdoutValue pins) →
        (∀ test ∈ s.buckets.keys, ∀ v, Writes s g.valueOf test (.pin pins) v →
          g.valueOf test = some v) ∧
        ∀ test bucket definition low n, s.buckets.get? test = some bucket → test ≠ holdoutTest →
          s.definitions.get? test = some definition → IsLeast definition.values low →
          (∀ v, ¬ Writes s g.valueOf test (.pin pins) v) → holdoutTest ∈ s.buckets.keys →
          Writes s g.valueOf holdoutTest (.pin pins) n →
            g.valueOf test = some (if n = holdoutValue then low else bucket.value) := by
  refine ⟨fun test bucket hb => ?_, fun test holdoutTest value => ?_, ?_⟩
  · obtain ⟨log, hrun⟩ := effective_eq_chain h hb
    refine ⟨_, log, hrun, fun v => ?_⟩
    rw [decides_iff, eq_comm]
  · rw [exists_writes_holdout_iff]
    refine and_congr_right fun _ => ⟨fun hw => ⟨?_, hw⟩, fun hw => hw.2⟩
    -- A test that is not in the snapshot has no effective value, so it is never in a bucket.
    by_contra hkey
    rw [(groups s plan?).valueOf_of_absent ((s.buckets.get?_eq_none_iff holdoutTest).2 hkey)] at hw
    cases hw.1
  · rintro holdoutTest holdoutValue pins g hname rfl
    refine ⟨fun test ht v => valueOf_of_pin s hname holdoutValue pins ht, ?_⟩
    intro test bucket definition low n hb hne hdefinition hlow hpin hkey hn
    rw [valueOf_of_holdout s hname holdoutValue pins hb hne hdefinition hlow hpin,
      valueOf_of_pin s hname holdoutValue pins hkey hn]
    simp only [Option.some.injEq]

/-- A pin that moves the hold-out test into the given bucket sends the other test to its lowest
bucket, and one that moves it out of it leaves the other test alone. -/
theorem last_rule_decides_sample :
    (groups sample (Override.plan (some "hold") 2 (.ofList [("hold", 2)]))).valueOf "page" =
        some 0 ∧
      (groups sample (Override.plan (some "hold") 1 (.ofList [("hold", 2)]))).valueOf "page" =
        some 1 := by
  have hlow := ((declaring [0, 1, 2]).lowest?_value_iff 0).1 rfl
  have hvalue : ∀ holdoutValue g,
      g = groups sample (Override.plan (some "hold") holdoutValue (.ofList [("hold", 2)])) →
        g.valueOf "page" = some (if 2 = holdoutValue then 0 else 1) := by
    intro holdoutValue g hg
    obtain ⟨-, -, hplan⟩ := last_rule_decides sample
      (Override.plan (some "hold") holdoutValue (.ofList [("hold", 2)]))
      (presentHoldouts_plan sample (some "hold") holdoutValue (.ofList [("hold", 2)]))
    refine (hplan "hold" holdoutValue (.ofList [("hold", 2)]) g (by decide) hg).2 "page" (.bare 1)
      (declaring [0, 1, 2]) 0 2 rfl (by decide) rfl hlow ?_ (by decide) ?_
    · rintro v ⟨hpin, -, -⟩
      cases hpin
    · exact .pin rfl rfl ⟨.bare 2, by decide, rfl⟩
  exact ⟨hvalue 2 _ rfl, hvalue 1 _ rfl⟩

end Override

end ExperimentGroups
