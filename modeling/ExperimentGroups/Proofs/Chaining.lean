import ExperimentGroups.Override.Basic
import ExperimentGroups.Proofs.Reply

/-!
# Trees of chains

Chains may be nested in chains. The hooks of such a tree see a snapshot whose hook is the tree, so a
tree with another shape could show its hooks other effective values. It does not: the hook of a tree
is the chain of its leaves from left to right, with the leaves that keep every value left out, and
the two snapshots with these hooks cannot be told apart by any query, at any depth of nesting.

A leaf is only ever given the determined bucket of the test with another value, so what it would do
with any other bucket does not matter.

## Main definitions

* `Bucket.revalued`, `Plan.loop`: a chain as a loop that keeps the bucket of the last step, and
  copies it only for a new value
* `Hook.onDetermined`: a hook that is itself on the buckets that a test can be given
* `Groups.AnswersAlike`: two snapshots with hooks that no query tells apart
* `Plan.Flattens`: what a tree of chains and the chain of its leaves have in common

## Main results

* `Hook.chain_filter_keep`: leaves that keep every value may be left out
* `Plan.hook_eq_loop`: the loop does what the chain does
* `Groups.effectiveWithin_congr`: hooks that agree on the determined buckets agree at every depth
* `Plan.flattens`: a tree of chains answers as the chain of its leaves
-/

namespace ExperimentGroups

/-! ## Chains -/

namespace Hook

theorem chain_keep_cons (hooks : List Hook) : chain (keep :: hooks) = chain hooks := by
  funext s test bucket
  rw [chain_cons, keep, pure_bind]

open Classical in
/-- **Leaves that keep every value may be left out.** -/
theorem chain_filter_keep (hooks : List Hook) :
    chain (hooks.filter (· ≠ keep)) = chain hooks := by
  induction hooks with
  | nil => rfl
  | cons hook hooks ih =>
    by_cases h : hook = keep
    · rw [h, List.filter_cons_of_neg (by simp), chain_keep_cons, ih]
    · rw [List.filter_cons_of_pos (by simpa using h)]
      funext s test bucket
      rw [chain_cons, chain_cons, ih]

/-- A chain, taken apart at one of its hooks: the hook is given the bucket with the value that the
hooks before it chose, and its own value goes to the hooks after it. -/
theorem chain_eq_bind_getElem (hooks : List Hook) (i : Fin hooks.length) (s : Snapshot)
    (test : String) (bucket : Bucket) :
    chain hooks s test bucket = (do
      let value ← chain (hooks.take i) s test bucket
      let next ← hooks[i] s test { bucket with value }
      chain (hooks.drop (i + 1)) s test { bucket with value := next }) := by
  have hsplit : hooks.take i ++ hooks[i] :: hooks.drop (i + 1) = hooks := by
    rw [Fin.getElem_fin, List.getElem_cons_drop, List.take_append_drop]
  calc chain hooks s test bucket
      = chain (hooks.take i ++ hooks[i] :: hooks.drop (i + 1)) s test bucket := by rw [hsplit]
    _ = _ := by
      rw [chain_append]
      rfl

end Hook

/-! ## The chain as a loop -/

/-- The bucket with a value; a copy is made only for a new value. -/
def Bucket.revalued (bucket : Bucket) (value : Int) : Bucket :=
  if value = bucket.value then bucket else { bucket with value }

@[simp] theorem Bucket.revalued_eq (bucket : Bucket) (value : Int) :
    bucket.revalued value = { bucket with value } := by
  unfold revalued
  split
  · next h => rw [h]
  · rfl

namespace Plan

variable {α : Type} (f : α → Hook)

mutual

/-- **The loop of a plan**: a chain gives the value of the bucket that its last step leaves. -/
def loop : Plan α → Hook
  | .rule a => f a
  | .chain plans => fun s test bucket => do
    let last ← loopThrough plans s test bucket
    pure last.value

/-- The bucket that is left after some plans. -/
def loopThrough : List (Plan α) → Snapshot → String → Bucket → Query Bucket
  | [], _, _, bucket => pure bucket
  | plan :: plans, s, test, bucket => do
    let value ← loop plan s test bucket
    loopThrough plans s test (bucket.revalued value)

end

mutual

/-- **The loop does what the chain does.** -/
theorem hook_eq_loop : ∀ plan : Plan α, plan.hook f = plan.loop f
  | .rule a => rfl
  | .chain plans => by
    funext s test bucket
    show Hook.chain (hooks f plans) s test bucket =
      (loopThrough f plans s test bucket >>= fun last => pure last.value)
    rw [loopThrough_eq_chain plans, bind_assoc]
    simp only [pure_bind, bind_pure]

/-- The bucket that is left is the one at the start with the value of the chain. -/
theorem loopThrough_eq_chain : ∀ (plans : List (Plan α)) (s : Snapshot) (test : String)
    (bucket : Bucket),
    loopThrough f plans s test bucket =
      (Hook.chain (hooks f plans) s test bucket >>= fun value => pure { bucket with value })
  | [], s, test, bucket => by
    rw [loopThrough, hooks, Hook.chain, Hook.keep, pure_bind]
  | plan :: plans, s, test, bucket => by
    rw [loopThrough, hooks, Hook.chain_cons, bind_assoc, hook_eq_loop plan]
    refine congrArg _ (funext fun value => ?_)
    rw [Bucket.revalued_eq, loopThrough_eq_chain plans]

end

end Plan

/-! ## The buckets that a test can be given -/

/-- A bucket that a hook of a test can be given: the determined one, with any value. -/
def Snapshot.Offers (s : Snapshot) (test : String) (bucket : Bucket) : Prop :=
  ∃ determined, s.buckets.get? test = some determined ∧
    bucket = { determined with value := bucket.value }

theorem Snapshot.Offers.with_value {s : Snapshot} {test : String} {bucket : Bucket}
    (h : s.Offers test bucket) (value : Int) : s.Offers test { bucket with value } := by
  obtain ⟨determined, hd, hb⟩ := h
  refine ⟨determined, hd, ?_⟩
  rw [hb]

theorem Snapshot.offers_determined {s : Snapshot} {test : String} {bucket : Bucket}
    (h : s.buckets.get? test = some bucket) : s.Offers test bucket :=
  ⟨bucket, h, rfl⟩

open Classical in
/-- A hook on the buckets that a test can be given, and another hook on all others. -/
noncomputable def Hook.onDetermined (other hook : Hook) : Hook := fun s test bucket =>
  if s.Offers test bucket then hook s test bucket else other s test bucket

theorem Hook.onDetermined_of_offers {s : Snapshot} {test : String} {bucket : Bucket}
    (h : s.Offers test bucket) (other hook : Hook) :
    other.onDetermined hook s test bucket = hook s test bucket :=
  if_pos h

/-- On a bucket that a test can be given, a chain gives every hook such a bucket. -/
theorem Hook.chain_onDetermined {s : Snapshot} {test : String} (other : Hook) (hooks : List Hook)
    {bucket : Bucket} (h : s.Offers test bucket) :
    chain (hooks.map other.onDetermined) s test bucket = chain hooks s test bucket := by
  induction hooks generalizing bucket with
  | nil => rfl
  | cons hook hooks ih =>
    rw [List.map_cons, chain_cons, chain_cons, onDetermined_of_offers h]
    exact congrArg _ (funext fun value => ih (h.with_value value))

/-! ## Snapshots that answer alike -/

/-- The projection asks the hook for the determined buckets only. -/
theorem Query.projection_congr {s : Snapshot} {hook hook' : Hook}
    (h : ∀ test bucket, s.buckets.get? test = some bucket →
      hook s test bucket = hook' s test bucket) :
    Query.projection s hook = Query.projection s hook' := by
  unfold Query.projection
  refine congrArg (· >>= _) (mapM_congr fun entry hentry => ?_)
  rw [h entry.1 entry.2 ((s.buckets.mem_entries_iff entry.1 entry.2).1 hentry)]

namespace Groups

/-- **No query tells the two snapshots with hooks apart.** -/
structure AnswersAlike (g g' : Groups) : Prop where
  /-- The hooks give the same at every depth of nesting. -/
  within : ∀ depth test, g.effectiveWithin depth test = g'.effectiveWithin depth test
  /-- On each test both runs go on at every depth, or both end: on an integer that is too long to
  be written, or with the same effective value and the same messages. -/
  evaluated : ∀ test,
    (∀ depth, g.effectiveWithin depth test = .error .unending ∧
      g'.effectiveWithin depth test = .error .unending) ∨
    (g.effective test = .error .excess ∧ g'.effective test = .error .excess) ∨
    ∃ traced, g.effective test = .ok traced ∧ g'.effective test = .ok traced
  /-- Every query has the same outcome. -/
  answered : ∀ {α : Type} (q : Query α), g.run q = g'.run q
  /-- The projections are the same. -/
  projected : g.projection = g'.projection

/-- One more level of nesting: hooks that agree on the determined buckets agree there if they agree
one level below. -/
theorem effectiveWithin_succ_congr {s : Snapshot} {hook hook' : Hook}
    (h : ∀ test bucket, s.buckets.get? test = some bucket →
      hook s test bucket = hook' s test bucket) {depth : Nat}
    (hdepth : ∀ test, (Groups.mk s hook).effectiveWithin depth test =
      (Groups.mk s hook').effectiveWithin depth test) (test : String) :
    (Groups.mk s hook).effectiveWithin (depth + 1) test =
      (Groups.mk s hook').effectiveWithin (depth + 1) test := by
  cases hb : s.buckets.get? test with
  | none => rw [effectiveWithin_of_absent _ hb, effectiveWithin_of_absent _ hb]
  | some bucket =>
    rw [effectiveWithin_succ_of_present _ hb, effectiveWithin_succ_of_present _ hb,
      funext hdepth]
    simp only [h test bucket hb]

/-- **Hooks that agree on the determined buckets agree at every depth of nesting.** -/
theorem effectiveWithin_congr {s : Snapshot} {hook hook' : Hook}
    (h : ∀ test bucket, s.buckets.get? test = some bucket →
      hook s test bucket = hook' s test bucket) (depth : Nat) (test : String) :
    (Groups.mk s hook).effectiveWithin depth test =
      (Groups.mk s hook').effectiveWithin depth test := by
  induction depth generalizing test with
  | zero => simp [effectiveWithin]
  | succ depth ih => exact effectiveWithin_succ_congr h ih test

/-- A run in full that does not end does not end at any depth. -/
theorem effectiveWithin_eq_unending {g : Groups} {test : String}
    (h : g.effective test = .error .unending) (depth : Nat) :
    g.effectiveWithin depth test = .error .unending := by
  by_contra he
  exact he (g.effective_eq_effectiveWithin he ▸ h)

/-- Hooks that agree on the determined buckets cannot be told apart. -/
theorem answersAlike_of_agree {s : Snapshot} {hook hook' : Hook}
    (h : ∀ test bucket, s.buckets.get? test = some bucket →
      hook s test bucket = hook' s test bucket) :
    AnswersAlike ⟨s, hook⟩ ⟨s, hook'⟩ := by
  have hwithin := effectiveWithin_congr h
  have heffective : (Groups.mk s hook).effective = (Groups.mk s hook').effective :=
    funext fun test => hwithin s.buckets.size test
  have hanswered : ∀ {α : Type} (q : Query α),
      (Groups.mk s hook).run q = (Groups.mk s hook').run q := by
    intro α q
    rw [run, run, heffective]
  refine ⟨hwithin, fun test => ?_, hanswered, ?_⟩
  · cases he : (Groups.mk s hook).effective test with
    | error halt =>
      have he' := congrFun heffective test ▸ he
      cases halt with
      | unending =>
        exact .inl fun depth =>
          ⟨effectiveWithin_eq_unending he depth, effectiveWithin_eq_unending he' depth⟩
      | excess => exact .inr (.inl ⟨rfl, he'⟩)
    | ok traced => exact .inr (.inr ⟨traced, rfl, congrFun heffective test ▸ he⟩)
  · exact (hanswered _).trans (congrArg _ (Query.projection_congr h))

end Groups

/-! ## Trees and chains -/

namespace Plan

open Classical in
/-- **What a tree of chains and the chain of its leaves have in common**, on a snapshot. -/
structure Flattens (s : Snapshot) (plan : Plan Hook) : Prop where
  /-- The tree is its loop: copying a bucket for new values only loses no value. -/
  loop : plan.hook id = plan.loop id
  /-- The tree and the chain of the leaves that do not keep every value answer alike. -/
  alike : Groups.AnswersAlike ⟨s, plan.hook id⟩ ⟨s, Hook.chain (plan.leaves.filter (· ≠ Hook.keep))⟩
  /-- Every leaf is given the bucket with the value that the leaves before it chose. -/
  given : ∀ (i : Fin plan.leaves.length) test bucket,
    plan.hook id s test bucket = (do
      let value ← Hook.chain (plan.leaves.take i) s test bucket
      let next ← plan.leaves[i] s test { bucket with value }
      Hook.chain (plan.leaves.drop (i + 1)) s test { bucket with value := next })
  /-- What the leaves do with other buckets than the determined ones with another value does not
  matter. -/
  determined : ∀ other : Hook,
    Groups.AnswersAlike ⟨s, plan.hook id⟩ ⟨s, plan.hook other.onDetermined⟩

/-- **A tree of chains answers as the chain of its leaves.** -/
theorem flattens (s : Snapshot) (plan : Plan Hook) : plan.Flattens s where
  loop := plan.hook_eq_loop id
  alike := by
    refine Groups.answersAlike_of_agree fun test bucket _ => ?_
    rw [plan.hook_eq_chain, List.map_id, Hook.chain_filter_keep]
  given i test bucket := by
    rw [plan.hook_eq_chain, List.map_id]
    exact Hook.chain_eq_bind_getElem plan.leaves i s test bucket
  determined other := by
    refine Groups.answersAlike_of_agree fun test bucket hb => ?_
    rw [plan.hook_eq_chain, plan.hook_eq_chain, List.map_id,
      Hook.chain_onDetermined other plan.leaves (Snapshot.offers_determined hb)]

/-- Chaining is associative. -/
example (first second third : Plan Hook) :
    (chain [first, chain [second, third]]).hook id =
      (chain [chain [first, second], third]).hook id := by
  funext s test bucket
  simp [hook_eq_chain, leaves, leavesOf]

end Plan

end ExperimentGroups
