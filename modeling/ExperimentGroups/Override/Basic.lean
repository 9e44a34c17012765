import ExperimentGroups.Groups.Hook

/-!
# Overrides

The ready-made rules for effective values, and plans that chain rules.

* A pin gives a test a fixed value, if its definition declares a bucket with that value.
* A hold-out puts every other test into its lowest bucket while the hold-out test is in a given
  bucket. It asks for the effective value of the hold-out test, and never changes it.

A rule keeps the value of a test whose definition it needs and does not find.

## Main definitions

* `Override`, `Override.hook`: the rules
* `Plan`, `Plan.hook`: rules of any kind, chained and nested
* `Plan.leaves`: the rules of a plan from left to right
* `Override.plan`: the plan for a hold-out and pins, if there are any
* `Override.hookOf`, `Override.rules`: the hook and the rules of a plan that may be missing

## Main results

* `Hook.chain_append`: a chain of two parts is the chain of the parts
* `Plan.hook_eq_chain`: a plan does what its rules do from left to right
-/

namespace ExperimentGroups

/-- **A rule.** -/
inductive Override where
  | keep
  | pin (values : Dict Int)
  | holdout (test : String) (value : Int)
  deriving DecidableEq

namespace Override

/-- The value for a pinned test. -/
def pinned (values : Dict Int) (s : Snapshot) (test : String) (bucket : Bucket) : Int :=
  match values.get? test with
  | none => bucket.value
  | some value =>
    match (s.definitions.get? test).bind (·.bucket? value) with
    | none => bucket.value
    | some _ => value

/-- The value for a test that is held out. -/
def heldOut (s : Snapshot) (test : String) (bucket : Bucket) : Int :=
  match (s.definitions.get? test).bind Definition.lowest? with
  | none => bucket.value
  | some lowest => lowest.value

/-- **The hook of a rule.** -/
def hook : Override → Hook
  | .keep => Hook.keep
  | .pin values => fun s test bucket => pure (pinned values s test bucket)
  | .holdout holdoutTest value => fun s test bucket =>
    if test = holdoutTest then pure bucket.value
    else do
      let active ← Query.isActive holdoutTest value
      pure (if active then heldOut s test bucket else bucket.value)

end Override

/-! ## Plans -/

/-- **A plan**: a rule, or plans that are applied in order. -/
inductive Plan (α : Type) where
  | rule (a : α)
  | chain (plans : List (Plan α))

namespace Plan

variable {α : Type}

mutual

/-- **The hook of a plan**, given the hooks of the rules. -/
def hook (f : α → Hook) : Plan α → Hook
  | .rule a => f a
  | .chain plans => Hook.chain (hooks f plans)

/-- The hooks of some plans. -/
def hooks (f : α → Hook) : List (Plan α) → List Hook
  | [] => []
  | plan :: plans => hook f plan :: hooks f plans

end

mutual

/-- The rules of a plan from left to right. -/
def leaves : Plan α → List α
  | .rule a => [a]
  | .chain plans => leavesOf plans

/-- The rules of some plans from left to right. -/
def leavesOf : List (Plan α) → List α
  | [] => []
  | plan :: plans => leaves plan ++ leavesOf plans

end

end Plan

theorem Hook.chain_cons (hook : Hook) (hooks : List Hook) (s : Snapshot) (test : String)
    (bucket : Bucket) :
    Hook.chain (hook :: hooks) s test bucket =
      (hook s test bucket >>= fun value =>
        Hook.chain hooks s test { bucket with value := value }) := rfl

theorem Hook.chain_append (hooks others : List Hook) (s : Snapshot) (test : String)
    (bucket : Bucket) :
    Hook.chain (hooks ++ others) s test bucket =
      (Hook.chain hooks s test bucket >>= fun value =>
        Hook.chain others s test { bucket with value := value }) := by
  induction hooks generalizing bucket with
  | nil => simp [Hook.chain, Hook.keep]
  | cons hook hooks ih => simp [Hook.chain, ih]

namespace Plan

variable {α : Type} (f : α → Hook) (s : Snapshot) (test : String)

mutual

/-- **A plan does what its rules do from left to right.** -/
theorem hook_eq_chain (bucket : Bucket) :
    ∀ plan : Plan α, plan.hook f s test bucket = Hook.chain (plan.leaves.map f) s test bucket
  | .rule a => by simp [hook, leaves, Hook.chain, Hook.keep]
  | .chain plans => by
    rw [hook, leaves]
    exact chain_hooks_eq_chain bucket plans

theorem chain_hooks_eq_chain (bucket : Bucket) :
    ∀ plans : List (Plan α),
      Hook.chain (hooks f plans) s test bucket = Hook.chain ((leavesOf plans).map f) s test bucket
  | [] => rfl
  | plan :: plans => by
    rw [hooks, leavesOf, List.map_append, Hook.chain_append, Hook.chain_cons,
      hook_eq_chain bucket plan]
    exact congrArg _ (funext fun value => chain_hooks_eq_chain { bucket with value } plans)

end

end Plan

/-- **The plan for a hold-out and pins**: the pins come after the hold-out. An empty name is no
hold-out, and without either there is no plan. -/
def Override.plan (holdoutTest : Option String) (holdoutValue : Int) (pins : Dict Int) :
    Option (Plan Override) :=
  let holdout? := (holdoutTest.filter (!·.isEmpty)).map fun test =>
    Plan.rule (.holdout test holdoutValue)
  let pin? := if pins.isEmpty then none else some (Plan.rule (.pin pins))
  match holdout?, pin? with
  | none, none => none
  | some h, none => some h
  | none, some p => some p
  | some h, some p => some (.chain [h, p])

/-- The hook of a plan of rules; without a plan every value is kept. -/
def Override.hookOf : Option (Plan Override) → Hook
  | none => Hook.keep
  | some plan => plan.hook Override.hook

/-- The rules of a plan from left to right; without a plan there are none. -/
def Override.rules (plan? : Option (Plan Override)) : List Override := plan?.elim [] Plan.leaves

theorem Override.hookOf_eq_chain (plan? : Option (Plan Override)) :
    hookOf plan? = Hook.chain ((rules plan?).map hook) := by
  cases plan? with
  | none => rfl
  | some plan =>
    funext s test bucket
    exact plan.hook_eq_chain hook s test bucket

end ExperimentGroups
