import ExperimentGroups.Proofs.Reprojection

/-!
# Histories

A history is a sequence of steps. Each step binds another hook, either to the snapshot at hand or
to its projection. Whatever the hooks, all that a history changes are buckets: the version, the
allocations, the definitions and the names of the tests stay, and every bucket is the one from the
start, or the first bucket of its definition with its value, or a bare one with a value that the
definition does not declare. Rules write declared values only, so under rules no bare bucket is
ever put in, and every test of the snapshot always has an active bucket.

A step to a projection that there is not leaves everything as it is.

## Main definitions

* `Groups.Move`, `Groups.move`, `Groups.after`: the steps, one step, and the state after several
* `Snapshot.Described`, `Snapshot.Sourced`: where a bucket may come from, without bare buckets and
  with them
* `Snapshot.Descends`: that a snapshot differs from another one in nothing but its buckets

## Main results

* `Groups.exists_projection_iff`: when there is a projection
* `Snapshot.descends_projected`: one step to a projection
* `Groups.history_invariant`: what every history keeps
-/

namespace ExperimentGroups

/-! ## Where a bucket comes from -/

namespace Snapshot

/-- **A bucket that is described**: it is the bucket of the test, or the first bucket of the
definition of the test with its value. -/
inductive Described (s : Snapshot) (test : String) (bucket : Bucket) : Prop
  | initial (h : s.buckets.get? test = some bucket)
  | declared {definition : Definition} (hdefinition : s.definitions.get? test = some definition)
    (h : definition.bucket? bucket.value = some bucket)

/-- **Where a bucket may come from**: it is described, or it is a bare bucket with a value that the
definition of the test does not declare. -/
inductive Sourced (s : Snapshot) (test : String) (bucket : Bucket) : Prop
  | described (h : s.Described test bucket)
  | bare (hbare : bucket = .bare bucket.value)
    (h : ∀ definition, s.definitions.get? test = some definition →
      definition.bucket? bucket.value = none)

/-- **A snapshot descends from another one** if nothing but the buckets may differ, the tests come
in the same order, and every bucket comes from where it may. -/
structure Descends (allowed : String → Bucket → Prop) (s₀ s : Snapshot) : Prop where
  matrixVersion : s.matrixVersion = s₀.matrixVersion
  allocations : s.allocations = s₀.allocations
  definitions : s.definitions = s₀.definitions
  keys : s.buckets.keys = s₀.buckets.keys
  bucket : ∀ test bucket, s.buckets.get? test = some bucket → allowed test bucket

theorem Descends.refl (s : Snapshot) : Descends s.Described s s :=
  ⟨rfl, rfl, rfl, rfl, fun _ _ h => .initial h⟩

theorem Descends.mono {allowed allowed' : String → Bucket → Prop} {s₀ s : Snapshot}
    (h : Descends allowed s₀ s)
    (hle : ∀ test bucket, allowed test bucket → allowed' test bucket) : Descends allowed' s₀ s :=
  { h with bucket := fun test bucket hb => hle test bucket (h.bucket test bucket hb) }

theorem bucket?_of_definitionBucket {s : Snapshot} {test : String} {e : Int} {bucket : Bucket}
    (h : s.definitionBucket test e = .found bucket) :
    ∃ definition, s.definitions.get? test = some definition ∧
      definition.bucket? e = some bucket := by
  unfold definitionBucket at h
  split at h
  · cases h
  · next definition hd =>
    refine ⟨definition, hd, ?_⟩
    cases hb : definition.bucket? e with
    | none =>
      rw [hb] at h
      cases h
    | some b =>
      rw [hb] at h
      cases h
      rfl

theorem bucket?_eq_none_of_definitionBucket {s : Snapshot} {test : String} {e : Int}
    {reason : Miss} (h : s.definitionBucket test e = .missing reason) (definition : Definition)
    (hd : s.definitions.get? test = some definition) : definition.bucket? e = none := by
  simp only [definitionBucket, hd] at h
  cases hb : definition.bucket? e with
  | none => rfl
  | some b =>
    rw [hb] at h
    cases h

/-- The active bucket of a test is its bucket, or the first one of its definition. -/
theorem described_of_activeBucket {s : Snapshot} {test : String} {e : Int}
    {determined bucket : Bucket} (hb : s.buckets.get? test = some determined)
    (h : s.activeBucket test (some e) = .found bucket) : s.Described test bucket := by
  by_cases he : determined.value = e
  · subst he
    rw [s.activeBucket_of_value hb] at h
    cases h
    exact .initial hb
  · rw [s.activeBucket_of_ne hb he] at h
    obtain ⟨definition, hd, hf⟩ := bucket?_of_definitionBucket h
    exact .declared hd (s.value_of_definitionBucket h ▸ hf)

/-- The bucket that stands for a value is described, or it is bare and the value undeclared. -/
theorem sourced_projectedBucket {s : Snapshot} {test : String} {determined : Bucket} (e : Int)
    (hb : s.buckets.get? test = some determined) : s.Sourced test (s.projectedBucket test e) := by
  cases ha : s.activeBucket test (some e) with
  | found bucket =>
    rw [s.projectedBucket_of_found ha]
    exact .described (described_of_activeBucket hb ha)
  | missing reason =>
    have he : determined.value ≠ e := by
      rintro rfl
      rw [s.activeBucket_of_value hb] at ha
      cases ha
    rw [s.activeBucket_of_ne hb he] at ha
    rw [s.projectedBucket_of_missing (s.activeBucket_of_ne hb he ▸ ha)]
    exact .bare rfl (bucket?_eq_none_of_definitionBucket ha)

/-- What comes from a later snapshot comes from the first one, since the definitions stay. -/
theorem Described.trans {allowed : String → Bucket → Prop} {s₀ s : Snapshot}
    (hs : Descends allowed s₀ s) (hle : ∀ test bucket, s₀.Described test bucket →
      allowed test bucket) {test : String} {bucket : Bucket} (h : s.Described test bucket) :
    allowed test bucket := by
  cases h with
  | initial h => exact hs.bucket test bucket h
  | declared hd h => exact hle test bucket (.declared (hs.definitions ▸ hd) h)

theorem Sourced.trans {s₀ s : Snapshot} (hs : Descends s₀.Sourced s₀ s) {test : String}
    {bucket : Bucket} (h : s.Sourced test bucket) : s₀.Sourced test bucket := by
  cases h with
  | described h => exact h.trans hs fun _ _ => .described
  | bare hbare h => exact .bare hbare fun definition hd => h definition (hs.definitions ▸ hd)

/-- **One step to a projection**: the buckets that stand for the effective values come from where
they may. -/
theorem descends_projected {allowed : String → Bucket → Prop} {s₀ s : Snapshot}
    {values : String → Option Int} (hs : Descends allowed s₀ s)
    (h : ∀ test bucket, s.buckets.get? test = some bucket →
      allowed test (s.projectedBucket test ((values test).getD bucket.value))) :
    Descends allowed s₀ (s.projected values) where
  matrixVersion := hs.matrixVersion
  allocations := hs.allocations
  definitions := hs.definitions
  keys := (s.keys_projected values).trans hs.keys
  bucket := by
    intro test bucket hb
    rw [get?_projected] at hb
    obtain ⟨determined, hd, rfl⟩ := Option.map_eq_some_iff.1 hb
    exact h test determined hd

end Snapshot

/-! ## When there is a projection -/

namespace Groups

variable {g : Groups}

/-- A snapshot that has a projection finds an effective value for each of its tests. -/
theorem resolves_of_projection {t : Traced Snapshot} (h : g.projection = .ok t) :
    g.Resolves := by
  have hreply : g.reply (.projection g.snapshot g.hook) = .ok t.value := by
    rw [reply, show g.run (.projection g.snapshot g.hook) = .ok t from h]
    rfl
  rw [projection_eq, reply_bind, reply_mapM] at hreply
  cases hm : g.snapshot.buckets.entries.mapM fun entry => g.reply (g.projectedEntry entry) with
  | error k =>
    rw [hm] at hreply
    cases hreply
  | ok buckets =>
    intro test ht
    obtain ⟨bucket, hb⟩ := (g.snapshot.buckets.mem_keys_iff test).1 ht
    have hmem := (g.snapshot.buckets.mem_entries_iff test bucket).2 hb
    obtain ⟨entry, he⟩ := exists_of_mapM_eq_ok hm _ hmem
    -- The entry begins with the run of the hook, which the effective value repeats.
    rw [projectedEntry, reply_bind] at he
    cases hh : g.reply (g.hook g.snapshot test bucket) with
    | error k =>
      rw [hh] at he
      cases he
    | ok e =>
      obtain ⟨log, hrun⟩ := run_of_reply hh
      rw [g.effective_of_present hb, hrun]
      exact ⟨_, rfl⟩

/-- **When there is a projection**: if every test has an effective value, and none that no bucket
describes is too long to be written. -/
theorem exists_projection_iff :
    (∃ t, g.projection = .ok t) ↔ g.Resolves ∧ g.Projectable := by
  constructor
  · rintro ⟨t, ht⟩
    have hr := resolves_of_projection ht
    refine ⟨hr, ?_⟩
    by_contra hp
    have hex := run_of_reply_error (reply_projection_of_not_projectable hr hp)
    rw [show g.run (.projection g.snapshot g.hook) = .ok t from ht] at hex
    cases hex
  · rintro ⟨hr, hp⟩
    obtain ⟨log, hrun⟩ := run_of_reply (reply_projection hr hp)
    exact ⟨_, hrun⟩

theorem value_of_projection {t : Traced Snapshot} (h : g.projection = .ok t) :
    t.value = g.snapshot.projected g.valueOf := by
  obtain ⟨hr, hp⟩ := exists_projection_iff.1 ⟨t, h⟩
  obtain ⟨log, hrun⟩ := run_of_reply (reply_projection hr hp)
  rw [show g.run (.projection g.snapshot g.hook) = .ok t from h] at hrun
  cases hrun
  rfl

/-! ## Steps -/

/-- **A step**: it binds a hook to the snapshot at hand, or to its projection. -/
inductive Move where
  | rebind (hook : Hook)
  | reproject (hook : Hook)

/-- The hook that a step binds. -/
def Move.hook : Move → Hook
  | .rebind hook => hook
  | .reproject hook => hook

/-- **One step.** Where there is no projection, everything stays as it is. -/
def move (g : Groups) : Move → Groups
  | .rebind hook => ⟨g.snapshot, hook⟩
  | .reproject hook =>
    match g.projection with
    | .ok t => ⟨t.value, hook⟩
    | .error _ => g

/-- **The state after some steps.** -/
def after (g : Groups) (moves : List Move) : Groups := moves.foldl move g

theorem after_append_singleton (g : Groups) (moves : List Move) (m : Move) :
    g.after (moves ++ [m]) = (g.after moves).move m := by
  simp [after]

/-- A step leaves the snapshot as it is, or goes over to its projection. -/
theorem snapshot_move (g : Groups) (m : Move) :
    (g.move m).snapshot = g.snapshot ∨
      (∃ t, g.projection = .ok t) ∧ (g.move m).snapshot = g.snapshot.projected g.valueOf := by
  cases m with
  | rebind hook => exact .inl rfl
  | reproject hook =>
    cases hp : g.projection with
    | error k => exact .inl (by simp only [move, hp])
    | ok t => exact .inr ⟨⟨t, rfl⟩, by simp only [move, hp, value_of_projection hp]⟩

/-- A step keeps the hook or binds its own. -/
theorem hook_move (g : Groups) (m : Move) :
    (g.move m).hook = g.hook ∨ (g.move m).hook = m.hook := by
  cases m with
  | rebind hook => exact .inr rfl
  | reproject hook =>
    cases hp : g.projection with
    | error k => exact .inl (by simp only [move, hp])
    | ok t => exact .inr (by simp only [move, hp, Move.hook])

/-- After some steps the hook is the one from the start, or one that a step has bound. -/
theorem hook_after_mem (g : Groups) (moves : List Move) :
    (g.after moves).hook ∈ g.hook :: moves.map Move.hook := by
  induction moves using List.reverseRecOn with
  | nil => exact List.mem_cons_self
  | append_singleton moves m ih =>
    rw [after_append_singleton, List.map_append, ← List.cons_append]
    rcases hook_move (g.after moves) m with h | h
    · rw [h]
      exact List.mem_append_left _ ih
    · rw [h]
      exact List.mem_append_right _ (List.mem_singleton_self _)

/-- **What every step keeps** is kept by every history. -/
theorem descends_after {allowed : String → Bucket → Prop} (g : Groups) (moves : List Move)
    (h₀ : Snapshot.Descends allowed g.snapshot g.snapshot)
    (hstep : ∀ g' : Groups, g'.hook ∈ g.hook :: moves.map Move.hook → g'.Resolves →
      Snapshot.Descends allowed g.snapshot g'.snapshot →
        ∀ test bucket, g'.snapshot.buckets.get? test = some bucket →
          allowed test (g'.snapshot.projectedBucket test ((g'.valueOf test).getD bucket.value))) :
    Snapshot.Descends allowed g.snapshot (g.after moves).snapshot := by
  induction moves using List.reverseRecOn with
  | nil => exact h₀
  | append_singleton moves m ih =>
    have hsub : ∀ hook ∈ g.hook :: moves.map Move.hook,
        hook ∈ g.hook :: (moves ++ [m]).map Move.hook := by
      intro hook hm
      rw [List.map_append, ← List.cons_append]
      exact List.mem_append_left _ hm
    have hs := ih fun g' hhook => hstep g' (hsub _ hhook)
    rw [after_append_singleton]
    rcases snapshot_move (g.after moves) m with h | ⟨hproj, h⟩
    · rw [h]
      exact hs
    · rw [h]
      exact Snapshot.descends_projected hs
        (hstep _ (hsub _ (hook_after_mem g moves)) (exists_projection_iff.1 hproj).1 hs)

end Groups

/-! ## Rules -/

namespace Override

variable {s : Snapshot} {plan? : Option (Plan Override)}

/-- Under rules every test of the snapshot has an active bucket: what is written is declared. -/
theorem exists_activeBucket (h : (presentHoldouts s (rules plan?)).Subsingleton) {test : String}
    {bucket : Bucket} (hb : s.buckets.get? test = some bucket) :
    ∃ b, s.activeBucket test ((groups s plan?).valueOf test) = .found b := by
  rw [valueOf_eq h hb]
  cases hw : written? s (groups s plan?).valueOf test (rules plan?) with
  | none => exact ⟨bucket, s.activeBucket_of_value hb⟩
  | some v =>
    rw [Option.getD_some]
    by_cases hv : bucket.value = v
    · exact ⟨bucket, hv ▸ s.activeBucket_of_value hb⟩
    · obtain ⟨definition, hd, hdecl⟩ := declared_of_written? s _ test hw
      obtain ⟨b, hf⟩ := (definition.exists_bucket?_iff v).2 hdecl
      refine ⟨b, ?_⟩
      rw [s.activeBucket_of_ne hb hv, Snapshot.definitionBucket, hd]
      simp only [hf, Lookup.ofOption]

/-- The active bucket of a test of the snapshot is found. -/
theorem exists_run_bucket (h : (presentHoldouts s (rules plan?)).Subsingleton) {test : String}
    (ht : test ∈ s.buckets.keys) :
    ∃ b log, (groups s plan?).run (.bucket s test) = .ok ⟨some b, log⟩ := by
  obtain ⟨bucket, hb⟩ := (s.buckets.mem_keys_iff test).1 ht
  obtain ⟨b, ha⟩ := exists_activeBucket h hb
  have hreply := Groups.reply_bucket ((resolves h).reply_ask test) s
  rw [ha] at hreply
  obtain ⟨log, hrun⟩ := Groups.run_of_reply hreply
  exact ⟨b, log, hrun⟩

/-- The bucket that stands for an effective value is described. -/
theorem described_projectedBucket (h : (presentHoldouts s (rules plan?)).Subsingleton)
    {test : String} {bucket : Bucket} (hb : s.buckets.get? test = some bucket) :
    s.Described test
      (s.projectedBucket test (((groups s plan?).valueOf test).getD bucket.value)) := by
  obtain ⟨b, ha⟩ := exists_activeBucket h hb
  obtain ⟨e, he⟩ := (resolves h).valueOf_of_mem (Dict.mem_keys_of_get? hb)
  rw [he] at ha
  rw [he, Option.getD_some, s.projectedBucket_of_found ha]
  exact Snapshot.described_of_activeBucket hb ha

theorem presentHoldouts_congr {s s' : Snapshot} (h : s'.buckets.keys = s.buckets.keys)
    (rules : List Override) : presentHoldouts s' rules = presentHoldouts s rules := by
  simp only [presentHoldouts, h]

end Override

namespace Groups

/-- **Rules that end on a snapshot**: at most one of their hold-out tests is in it. -/
def Ruled (s : Snapshot) (hook : Hook) : Prop :=
  ∃ plan?, hook = Override.hookOf plan? ∧
    (Override.presentHoldouts s (Override.rules plan?)).Subsingleton

theorem Ruled.exists_groups {s : Snapshot} {g : Groups} (h : Ruled s g.hook)
    (hkeys : g.snapshot.buckets.keys = s.buckets.keys) :
    ∃ plan?, g = Override.groups g.snapshot plan? ∧
      (Override.presentHoldouts g.snapshot (Override.rules plan?)).Subsingleton := by
  obtain ⟨plan?, hhook, hplan⟩ := h
  refine ⟨plan?, ?_, Override.presentHoldouts_congr hkeys _ ▸ hplan⟩
  cases g
  exact congrArg (Groups.mk _) hhook

theorem ruled_plan (s : Snapshot) (holdoutTest : Option String) (holdoutValue : Int)
    (pins : Dict Int) : Ruled s (Override.hookOf (Override.plan holdoutTest holdoutValue pins)) :=
  ⟨_, rfl, Override.presentHoldouts_plan s holdoutTest holdoutValue pins⟩

theorem ruled_keep (s : Snapshot) : Ruled s .keep :=
  ⟨none, rfl, by rintro _ ⟨-, _, h⟩; cases h⟩

/-- **What every history keeps**, whatever its hooks: the version, the allocations, the definitions
and the tests in their order; and every bucket is the one from the start, or the first of its
definition with its value, or a bare one with an undeclared value. A step to the projection fails
only if a hook never ends or if a value that no bucket describes is too long to be written. If all
hooks are rules with at most one hold-out test in the snapshot, no bare bucket is put in, every
step to the projection succeeds, and every test of the snapshot has an active bucket. -/
theorem history_invariant (g : Groups) (moves : List Move) :
    Snapshot.Descends g.snapshot.Sourced g.snapshot (g.after moves).snapshot ∧
      ((∃ t, (g.after moves).projection = .ok t) ↔
        (g.after moves).Resolves ∧ (g.after moves).Projectable) ∧
      ((∀ hook ∈ g.hook :: moves.map Move.hook, Ruled g.snapshot hook) →
        Snapshot.Descends g.snapshot.Described g.snapshot (g.after moves).snapshot ∧
          (∃ t, (g.after moves).projection = .ok t) ∧
          ∀ test ∈ g.snapshot.buckets.keys, ∃ bucket log,
            (g.after moves).run (.bucket (g.after moves).snapshot test) =
              .ok ⟨some bucket, log⟩) := by
  have hrefl := Snapshot.Descends.refl g.snapshot
  refine ⟨?_, exists_projection_iff, fun hruled => ?_⟩
  · refine descends_after g moves (hrefl.mono fun _ _ => .described) ?_
    intro g' _ _ hs test bucket hb
    exact (Snapshot.sourced_projectedBucket _ hb).trans hs
  · have hs : Snapshot.Descends g.snapshot.Described g.snapshot (g.after moves).snapshot := by
      refine descends_after g moves hrefl ?_
      intro g' hhook _ hs test bucket hb
      obtain ⟨plan?, hg, hplan⟩ := (hruled _ hhook).exists_groups hs.keys
      have hdescribed := Override.described_projectedBucket hplan hb
      rw [← hg] at hdescribed
      exact hdescribed.trans hs fun _ _ h => h
    obtain ⟨plan?, hg, hplan⟩ := (hruled _ (hook_after_mem g moves)).exists_groups hs.keys
    refine ⟨hs, exists_projection_iff.2 ?_, fun test ht => ?_⟩
    · rw [hg]
      exact ⟨Override.resolves hplan, Override.projectable hplan⟩
    · have hbucket := Override.exists_run_bucket hplan (hs.keys ▸ ht)
      rwa [← hg] at hbucket

/-- A pin turns the hold-out on, and then there are no rules any more. -/
def released : List Move :=
  [.reproject (Override.hookOf (Override.plan (some "hold") 2 (.ofList [("hold", 2)]))),
    .reproject .keep, .rebind .keep]

/-- The test that was held out still has a bucket of its definition when the rules are gone. -/
theorem history_invariant_released :
    (∀ hook ∈ (⟨Override.sample, .keep⟩ : Groups).hook :: released.map Move.hook,
        Ruled Override.sample hook) ∧
      ∃ bucket log, ((⟨Override.sample, .keep⟩ : Groups).after released).run
          (.bucket ((⟨Override.sample, .keep⟩ : Groups).after released).snapshot "page") =
        .ok ⟨some bucket, log⟩ := by
  have hruled : ∀ hook ∈ (⟨Override.sample, .keep⟩ : Groups).hook :: released.map Move.hook,
      Ruled Override.sample hook := by
    intro hook hm
    simp only [released, List.map_cons, List.map_nil, Move.hook, List.mem_cons,
      List.not_mem_nil, or_false] at hm
    rcases hm with rfl | rfl | rfl | rfl
    · exact ruled_keep Override.sample
    · exact ruled_plan Override.sample _ _ _
    · exact ruled_keep Override.sample
    · exact ruled_keep Override.sample
  obtain ⟨-, -, hrules⟩ := history_invariant ⟨Override.sample, .keep⟩ released
  exact ⟨hruled, (hrules hruled).2.2 "page" (by decide)⟩

end Groups

end ExperimentGroups
