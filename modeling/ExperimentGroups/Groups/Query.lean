import ExperimentGroups.Groups.Message

/-!
# Queries

A query is a deterministic program that answers, or first asks for the effective value of a test,
or first reports a message, or first writes an integer as a text. Asking is all that a query can
learn about overrides, so a query may be run against any way of finding effective values, which may
report messages itself and may never end. A run that has to write an integer that is too long ends
without an answer.

## Main definitions

* `Query α`: queries with an answer in `α`
* `Halt`: why there is no answer
* `Outcome α`: the answer with the messages before it, or why there is none
* `Query.run`: running
* `Query.ask`, `Query.value`, `Query.isActive`: the queries about one effective value
* `Query.write`: the query that writes integers

## Main results

* `Query.run_bind`: running a composed query is composing the runs
-/

namespace ExperimentGroups

/-- **A query.** A test that is not in the snapshot has no effective value. -/
inductive Query (α : Type) where
  | answer (a : α)
  | asking (test : String) (next : Option Int → Query α)
  | reporting (message : Message) (rest : Query α)
  | writing (n : Int) (rest : Query α)

/-- An answer, with the messages that came before it. -/
structure Traced (α : Type) where
  value : α
  log : List Message
  deriving DecidableEq

/-- **Why there is no answer**: the run never ends, or an integer is too long to be written. -/
inductive Halt where
  | unending
  | excess
  deriving DecidableEq

/-- **The outcome of a run.** -/
abbrev Outcome (α : Type) := Except Halt (Traced α)

namespace Outcome

variable {α β : Type}

/-- An answer without messages. -/
def answer (a : α) : Outcome α := .ok ⟨a, []⟩

/-- The answer, whatever the messages. -/
def value? : Outcome α → Option α
  | .error _ => none
  | .ok t => some t.value

/-- One run after another; the messages of the first come first. -/
def andThen (o : Outcome α) (f : α → Outcome β) : Outcome β :=
  match o with
  | .error h => .error h
  | .ok ⟨a, log⟩ =>
    match f a with
    | .error h => .error h
    | .ok ⟨b, log'⟩ => .ok ⟨b, log ++ log'⟩

/-- A run with a message in front. -/
def reporting (message : Message) : Outcome α → Outcome α
  | .error h => .error h
  | .ok ⟨a, log⟩ => .ok ⟨a, message :: log⟩

/-- A run that first writes an integer. -/
def writing (n : Int) (o : Outcome α) : Outcome α :=
  if Text.isWithinDigits n then o else .error .excess

@[simp] theorem answer_andThen (a : α) (f : α → Outcome β) : (answer a).andThen f = f a := by
  cases h : f a with
  | error e => simp [answer, andThen, h]
  | ok t => simp [answer, andThen, h]

end Outcome

namespace Query

variable {α β γ : Type}

/-! ## Composition -/

/-- One query after another. -/
def bind : Query α → (α → Query β) → Query β
  | .answer a, f => f a
  | .asking test next, f => .asking test fun e => (next e).bind f
  | .reporting message rest, f => .reporting message (rest.bind f)
  | .writing n rest, f => .writing n (rest.bind f)

instance : Monad Query where
  pure := .answer
  bind := bind

theorem bind_answer (q : Query α) : q.bind .answer = q := by
  induction q with
  | answer a => rfl
  | asking test next ih => exact congrArg (Query.asking test) (funext ih)
  | reporting message rest ih => exact congrArg (Query.reporting message) ih
  | writing n rest ih => exact congrArg (Query.writing n) ih

theorem bind_assoc (q : Query α) (f : α → Query β) (g : β → Query γ) :
    (q.bind f).bind g = q.bind fun a => (f a).bind g := by
  induction q with
  | answer a => rfl
  | asking test next ih => exact congrArg (Query.asking test) (funext ih)
  | reporting message rest ih => exact congrArg (Query.reporting message) ih
  | writing n rest ih => exact congrArg (Query.writing n) ih

instance : LawfulMonad Query :=
  LawfulMonad.mk' Query bind_answer (fun _ _ => rfl) bind_assoc

/-! ## Running -/

/-- **Runs a query** against a way of finding effective values. -/
def run (effective : String → Outcome (Option Int)) : Query α → Outcome α
  | .answer a => .answer a
  | .asking test next => (effective test).andThen fun e => (next e).run effective
  | .reporting message rest => (rest.run effective).reporting message
  | .writing n rest => (rest.run effective).writing n

theorem run_bind (effective : String → Outcome (Option Int)) (q : Query α) (f : α → Query β) :
    (q >>= f).run effective = (q.run effective).andThen fun a => (f a).run effective := by
  show (q.bind f).run effective = _
  induction q with
  | answer a => simp [bind, run]
  | asking test next ih =>
    simp only [bind, run, ih]
    cases effective test with
    | error h => rfl
    | ok t =>
      simp only [Outcome.andThen]
      cases (next t.value).run effective with
      | error h => rfl
      | ok u =>
        simp only
        cases (f u.value).run effective with
        | error h => rfl
        | ok w => simp
  | reporting message rest ih =>
    simp only [bind, run, ih]
    cases rest.run effective with
    | error h => rfl
    | ok t =>
      simp only [Outcome.andThen, Outcome.reporting]
      cases (f t.value).run effective with
      | error h => rfl
      | ok w => rfl
  | writing n rest ih =>
    simp only [bind, run, ih, Outcome.writing]
    split <;> rfl

/-! ## One effective value -/

/-- Asks for the effective value of a test. -/
def ask (test : String) : Query (Option Int) := .asking test .answer

/-- Reports a message. -/
def report (message : Message) : Query Unit := .reporting message (.answer ())

/-- Writes some integers, one after another. -/
def write : List Int → Query Unit
  | [] => .answer ()
  | n :: ns => .writing n (write ns)

/-- The effective value of a test, or a default for a test that is not in the snapshot. -/
def value (test : String) (default : Int) : Query Int := do
  let effective ← ask test
  pure (effective.getD default)

/-- **Whether a test is in the bucket of a value.** The default, if one is given, counts for a test
that is not in the snapshot, and for no other. -/
def isActive (test : String) (value : Int) (default : Option Int := none) : Query Bool := do
  let effective ← ask test
  pure (match effective with
    | some e => e == value
    | none => default == some value)

end Query

end ExperimentGroups
