import ExperimentGroups.Proofs.Precedence
import ExperimentGroups.Proofs.Projection

/-!
# Rules on their own projection

A projection holds what the rules wrote. Applied to it, every rule decides as before: the hold-out
test has its effective value already, so the hold-outs are on or off as they were, and what is
written is written over itself. So the projection is its own projection, with the rules and without.

## Main definitions

* `Groups.Settled`: that no effective value differs from the determined one

## Main results

* `Groups.projected_eq_iff`: a projection is the snapshot itself exactly if that is settled
* `Override.valueOf_projected`: effective values stay on the projection
* `Override.reprojection`: the projection is its own projection
-/

namespace ExperimentGroups

/-! ## Settled snapshots -/

namespace Groups

variable {g : Groups}

variable (g) in
/-- **No effective value differs from the determined one.** -/
def Settled : Prop :=
  ∀ test bucket, g.snapshot.buckets.get? test = some bucket → g.valueOf test = some bucket.value

theorem Settled.projectable (h : g.Settled) : g.Projectable := by
  intro test bucket definition e hb _ he hne
  rw [h test bucket hb] at he
  exact absurd (Option.some.inj he) hne

/-- The projection is the snapshot itself exactly if no effective value differs. -/
theorem projected_eq_iff (h : g.Resolves) :
    g.snapshot.projected g.valueOf = g.snapshot ↔ g.Settled := by
  constructor
  · intro heq test bucket hb
    obtain ⟨e, he⟩ := h.valueOf_of_mem (Dict.mem_keys_of_get? hb)
    have hp := g.snapshot.get?_projected_of_value hb he
    rw [heq, hb, Option.some.injEq] at hp
    rw [he, hp, Snapshot.value_projectedBucket]
  · intro hs
    have hbuckets : (g.snapshot.projected g.valueOf).buckets = g.snapshot.buckets := by
      refine Dict.ext_entries ((List.map_congr_left fun entry hm => ?_).trans (List.map_id' _))
      have hb := (g.snapshot.buckets.mem_entries_iff entry.1 entry.2).1 hm
      simp only [hs entry.1 entry.2 hb, Option.getD_some, g.snapshot.projectedBucket_of_value hb]
    show { g.snapshot with buckets := (g.snapshot.projected g.valueOf).buckets } = g.snapshot
    rw [hbuckets]

/-- A projection that is equal by value to the snapshot has the same values. -/
theorem settled_of_sameValue (h : g.Resolves)
    (hsame : (g.snapshot.projected g.valueOf).sameValue g.snapshot = true) : g.Settled := by
  intro test bucket hb
  obtain ⟨e, he⟩ := h.valueOf_of_mem (Dict.mem_keys_of_get? hb)
  have hp : (test, g.snapshot.projectedBucket test e) ∈
      (g.snapshot.projected g.valueOf).buckets.entries := by
    rw [Dict.mem_entries_iff, g.snapshot.get?_projected_of_value hb he]
  have hagree : (g.snapshot.projected g.valueOf).buckets.agree Bucket.sameValue
      g.snapshot.buckets := by
    simp only [Snapshot.sameValue, Bool.and_eq_true] at hsame
    exact hsame.1.1.2
  simp only [Dict.agree, Bool.and_eq_true, List.all_eq_true] at hagree
  have hbucket := hagree.2 _ hp
  rw [hb] at hbucket
  simp only [Bucket.sameValue, Bool.and_eq_true, beq_iff_eq,
    Snapshot.value_projectedBucket] at hbucket
  rw [he, hbucket.1.1.2]

/-- A settled snapshot is its own projection. -/
theorem Settled.projection_eq (h : g.Settled) (hr : g.Resolves) :
    ∃ log, g.projection = .ok ⟨g.snapshot, log⟩ := by
  have hp := reply_projection hr h.projectable
  rw [(projected_eq_iff hr).2 h] at hp
  exact run_of_reply hp

/-- Without a hook, every snapshot is its own projection. -/
theorem projection_keep (s : Snapshot) :
    ∃ log, (⟨s, .keep⟩ : Groups).projection = .ok ⟨s, log⟩ := by
  refine Settled.projection_eq (fun test bucket hb => ?_)
    (resolves_of_reply fun test => ⟨_, reply_ask_keep s test⟩)
  rw [valueOf_of_reply (reply_ask_keep s test), hb, Option.map_some]

end Groups

namespace Override

variable {s : Snapshot} {plan? : Option (Plan Override)}

/-! ## Rules on a projection -/

/-- What a rule writes is declared, so the projection needs no bare bucket for it. -/
theorem projectable (h : (presentHoldouts s (rules plan?)).Subsingleton) :
    (groups s plan?).Projectable := by
  intro test bucket definition e hb hdefinition he hne hundeclared
  rw [valueOf_eq h hb, Option.some.injEq] at he
  cases hw : written? s (groups s plan?).valueOf test (rules plan?) with
  | none =>
    rw [hw, Option.getD_none] at he
    exact absurd he hne
  | some v =>
    rw [hw, Option.getD_some] at he
    obtain ⟨definition', hdefinition', b, hb', hv⟩ := declared_of_written? s _ test hw
    obtain rfl : definition = definition' :=
      Option.some.inj (hdefinition.symm.trans hdefinition')
    exact absurd (hv.trans he) (hundeclared b hb')

theorem written?_projected (values values' : String → Option Int) (test : String)
    (rules : List Override) :
    written? (s.projected values) values' test rules = written? s values' test rules := by
  induction rules with
  | nil => rfl
  | cons rule rules ih =>
    have hrule : write? (s.projected values) values' test rule = write? s values' test rule := by
      cases rule <;> rfl
    rw [written?, written?, ih, hrule]

theorem presentHoldouts_projected (values : String → Option Int) (rules : List Override) :
    presentHoldouts (s.projected values) rules = presentHoldouts s rules := by
  simp only [presentHoldouts, Snapshot.keys_projected]

theorem valueOf_projected_of_absent (plan? : Option (Plan Override)) {test : String}
    (h : s.buckets.get? test = none) :
    (groups (s.projected (groups s plan?).valueOf) plan?).valueOf test =
      (groups s plan?).valueOf test := by
  have hp := s.get?_projected_of_absent h (groups s plan?).valueOf
  exact ((groups _ plan?).valueOf_of_absent hp).trans ((groups s plan?).valueOf_of_absent h).symm

section Projected

variable (h : (presentHoldouts s (rules plan?)).Subsingleton)

include h

/-- A test keeps its effective value on the projection if the tests that its rules ask for do: the
same value is written over itself. -/
theorem valueOf_projected_of_asked {test : String}
    (hasked : ∀ name ∈ askedOf test (rules plan?),
      (groups (s.projected (groups s plan?).valueOf) plan?).valueOf name =
        (groups s plan?).valueOf name) :
    (groups (s.projected (groups s plan?).valueOf) plan?).valueOf test =
      (groups s plan?).valueOf test := by
  cases hb : s.buckets.get? test with
  | none => exact valueOf_projected_of_absent plan? hb
  | some bucket =>
    have he := valueOf_eq h hb
    have hp := s.get?_projected_of_value hb he
    have h' := presentHoldouts_projected (groups s plan?).valueOf (rules plan?) ▸ h
    rw [valueOf_eq h' hp, written?_projected, written?_congr s test hasked,
      Snapshot.value_projectedBucket, he]
    -- What was written once is written again; what was not written is the determined value.
    cases written? s (groups s plan?).valueOf test (rules plan?) <;> rfl

/-- **Effective values stay on the projection**: first that of the hold-out test, whose rules ask
for absent tests only, and so those of all others. -/
theorem valueOf_projected (test : String) :
    (groups (s.projected (groups s plan?).valueOf) plan?).valueOf test =
      (groups s plan?).valueOf test := by
  have habsent := fun name hname =>
    valueOf_projected_of_absent plan? ((s.buckets.get?_eq_none_iff name).2 hname)
  refine valueOf_projected_of_asked h fun name hname => ?_
  by_cases hkey : name ∈ s.buckets.keys
  · -- The one present hold-out test asks for no other present one.
    refine valueOf_projected_of_asked h fun other hother => habsent other fun hkey' => ?_
    obtain ⟨hne, hrule⟩ := (mem_askedOf name).1 hother
    exact hne (h ⟨hkey', hrule⟩ ⟨hkey, ((mem_askedOf test).1 hname).2⟩)
  · exact habsent name hkey

/-- The projection is settled under the same rules. -/
theorem settled_projected :
    (groups (s.projected (groups s plan?).valueOf) plan?).Settled := by
  intro test bucket hp
  rw [valueOf_projected h]
  have hget := s.get?_projected (groups s plan?).valueOf test
  rw [show (s.projected (groups s plan?).valueOf).buckets.get? test = some bucket from hp] at hget
  obtain ⟨determined, hb, rfl⟩ := Option.map_eq_some_iff.1 hget.symm
  rw [valueOf_eq h hb, Option.getD_some, Snapshot.value_projectedBucket]

end Projected

variable (s plan?)

/-- **The projection is its own projection**, with the rules and without any, if at most one
hold-out test is present: on the projection every test has the effective value that it had before.
It is the snapshot itself exactly if no effective value differs from the determined one. -/
theorem reprojection (h : (presentHoldouts s (rules plan?)).Subsingleton) :
    ∃ p log, (groups s plan?).projection = .ok ⟨p, log⟩ ∧
      (∃ log', (groups p plan?).projection = .ok ⟨p, log'⟩) ∧
      (∃ log', (⟨p, .keep⟩ : Groups).projection = .ok ⟨p, log'⟩) ∧
      (∀ test, ∃ e log log', (groups s plan?).effective test = .ok ⟨e, log⟩ ∧
        (groups p plan?).effective test = .ok ⟨e, log'⟩) ∧
      (p = s ↔ (groups s plan?).Settled) ∧
      (p.sameValue s = true → (groups s plan?).Settled) := by
  have h' := presentHoldouts_projected (groups s plan?).valueOf (rules plan?) ▸ h
  have hres := resolves h
  have hres' := resolves h'
  obtain ⟨log, hlog⟩ := Groups.run_of_reply (Groups.reply_projection hres (projectable h))
  refine ⟨s.projected (groups s plan?).valueOf, log, hlog,
    (settled_projected h).projection_eq hres', Groups.projection_keep _, fun test => ?_,
    Groups.projected_eq_iff hres, Groups.settled_of_sameValue hres⟩
  obtain ⟨log, hrun⟩ := hres.exists_effective test
  obtain ⟨log', hrun'⟩ := hres'.exists_effective test
  rw [valueOf_projected h] at hrun'
  exact ⟨_, log, log', hrun, hrun'⟩

/-- A pin changes the projection, which then stays. -/
theorem reprojection_sample :
    ∃ p log, (groups sample (Override.plan (some "hold") 1 (.ofList [("page", 2)]))).projection =
        .ok ⟨p, log⟩ ∧
      (∃ log', (groups p (Override.plan (some "hold") 1 (.ofList [("page", 2)]))).projection =
        .ok ⟨p, log'⟩) ∧
      p ≠ sample := by
  obtain ⟨p, log, hp, hp', -, -, hiff, -⟩ := reprojection sample
    (Override.plan (some "hold") 1 (.ofList [("page", 2)])) (presentHoldouts_plan _ _ _ _)
  refine ⟨p, log, hp, hp', fun heq => ?_⟩
  have hpage := hiff.1 heq "page" (.bare 1) rfl
  rw [valueOf_of_pin sample (by decide) 1 _ (by decide)
    (.pin rfl rfl ⟨.bare 2, by decide, rfl⟩)] at hpage
  cases hpage

end Override

end ExperimentGroups
