import ExperimentGroups.Groups.Projection
import ExperimentGroups.Groups.Rendering
import ExperimentGroups.Proofs.Nesting
import ExperimentGroups.Proofs.Steps

/-!
# Replies

The reply to a query is its answer without the messages, or why there is none. Replies compose as
queries do, and depend on the effective values only: two snapshots with hooks that reply alike to
every test reply alike to every query.

## Main definitions

* `Groups.reply`: the reply to a query
* `Groups.Resolves`, `Groups.valueOf`: that every test with a bucket has an effective value, and the
  effective value of a test
* `Inquiry`, `Inquiry.query`: what a client asks of a snapshot with a hook

## Main results

* `Groups.reply_bind`, `Groups.reply_mapM`: replies compose
* `Groups.reply_congr`: replies depend on the effective values only
* `Groups.reply_ask_of_present`: the effective value of a test is the reply of its hook
* `Query.asksOnly_bucket`, `Query.asksOnly_metadata`: queries about one test ask for no other
-/

namespace ExperimentGroups

namespace Groups

variable {α β : Type} (g : Groups)

/-! ## Replies compose -/

/-- **The reply to a query**: the answer without the messages, or why there is none. -/
def reply (q : Query α) : Except Halt α := (g.run q).map Traced.value

theorem run_of_reply {g : Groups} {q : Query α} {a : α} (h : g.reply q = .ok a) :
    ∃ log, g.run q = .ok ⟨a, log⟩ := by
  rw [reply] at h
  cases hr : g.run q with
  | error k =>
    rw [hr] at h
    cases h
  | ok t =>
    rw [hr] at h
    cases h
    exact ⟨t.log, rfl⟩

theorem run_of_reply_error {g : Groups} {q : Query α} {k : Halt} (h : g.reply q = .error k) :
    g.run q = .error k := by
  rw [reply] at h
  cases hr : g.run q with
  | error k' =>
    rw [hr] at h
    cases h
    rfl
  | ok t =>
    rw [hr] at h
    cases h

@[simp] theorem reply_pure (a : α) : g.reply (pure a) = .ok a := rfl

theorem reply_bind (q : Query α) (f : α → Query β) :
    g.reply (q >>= f) = g.reply q >>= fun a => g.reply (f a) := by
  simp only [reply, run, Query.run_bind]
  cases q.run g.effective with
  | error h => rfl
  | ok t =>
    simp only [Outcome.andThen]
    show _ = ((f t.value).run g.effective).map Traced.value
    cases (f t.value).run g.effective <;> rfl

theorem reply_bind_pure (q : Query α) (f : α → β) :
    g.reply (q >>= fun a => pure (f a)) = (g.reply q).map f := by
  rw [reply_bind]
  cases g.reply q <;> rfl

theorem reply_mapM (f : α → Query β) (l : List α) :
    g.reply (l.mapM f) = l.mapM fun a => g.reply (f a) := by
  induction l with
  | nil => rfl
  | cons a l ih =>
    simp only [List.mapM_cons, reply_bind, ih, reply_pure]
    rfl

theorem reply_report (message : Message) : g.reply (.report message) = .ok () := rfl

/-- Integers are written if none of them is too long. -/
theorem reply_write (ns : List Int) :
    g.reply (.write ns) = if ns.all Text.isWithinDigits then .ok () else .error .excess := by
  induction ns with
  | nil => rfl
  | cons n ns ih =>
    have hr : g.reply (.write (n :: ns)) =
        if Text.isWithinDigits n then g.reply (.write ns) else .error .excess := by
      simp only [reply, run, Query.write, Query.run, Outcome.writing]
      split <;> rfl
    rw [hr, ih]
    by_cases hn : Text.isWithinDigits n <;> simp [hn]

/-- **Replies depend on the effective values only.** -/
theorem reply_congr {g g' : Groups} (h : ∀ test, g'.reply (.ask test) = g.reply (.ask test))
    (q : Query α) : g'.reply q = g.reply q := by
  -- Each step of a query is a query of its own, followed by the rest.
  induction q with
  | answer a => rfl
  | asking test next ih =>
    show g'.reply (.ask test >>= next) = g.reply (.ask test >>= next)
    simp only [reply_bind, h, ih]
  | reporting message rest ih =>
    show g'.reply (.report message >>= fun _ => rest) = g.reply (.report message >>= fun _ => rest)
    simp only [reply_bind, reply_report, ih]
  | writing n rest ih =>
    show g'.reply (.write [n] >>= fun _ => rest) = g.reply (.write [n] >>= fun _ => rest)
    simp only [reply_bind, reply_write, ih]

/-! ## Effective values -/

theorem reply_ask (test : String) : g.reply (.ask test) = (g.effective test).map Traced.value := by
  simp only [reply, run, Query.ask, Query.run]
  cases g.effective test <;> simp [Outcome.andThen, Outcome.answer, Except.map]

theorem reply_ask_of_absent {test : String} (h : g.snapshot.buckets.get? test = none) :
    g.reply (.ask test) = .ok none := by
  rw [reply_ask, g.effective_of_absent h]
  rfl

/-- The effective value of a test with a bucket is the reply of its hook. -/
theorem reply_ask_of_present {test : String} {bucket : Bucket}
    (h : g.snapshot.buckets.get? test = some bucket) :
    g.reply (.ask test) = (g.reply (g.hook g.snapshot test bucket)).map some := by
  rw [reply_ask, g.effective_of_present h, reply]
  cases g.run (g.hook g.snapshot test bucket) <;> rfl

/-- The values of a hook that asks nothing. -/
theorem reply_ask_of_pure (s : Snapshot) (f : String → Bucket → Int) (test : String) :
    (⟨s, fun _ test bucket => pure (f test bucket)⟩ : Groups).reply (.ask test) =
      .ok ((s.buckets.get? test).map (f test)) := by
  cases h : s.buckets.get? test with
  | none => exact reply_ask_of_absent _ h
  | some bucket => exact reply_ask_of_present ⟨s, _⟩ h

/-- **Every test with a bucket has an effective value.** -/
def Resolves : Prop := ∀ test ∈ g.snapshot.buckets.keys, ∃ t, g.effective test = .ok t

/-- **The effective value of a test**, if it has a bucket and its run gives one. -/
def valueOf (test : String) : Option Int := (g.effective test).value?.join

theorem valueOf_of_absent {test : String} (h : g.snapshot.buckets.get? test = none) :
    g.valueOf test = none := by
  rw [valueOf, g.effective_of_absent h]
  rfl

variable {g}

theorem valueOf_of_reply {test : String} {e : Option Int} (h : g.reply (.ask test) = .ok e) :
    g.valueOf test = e := by
  rw [reply_ask] at h
  rw [valueOf]
  cases he : g.effective test with
  | error k =>
    rw [he] at h
    cases h
  | ok t =>
    rw [he] at h
    cases h
    rfl

theorem Resolves.exists_effective (h : g.Resolves) (test : String) :
    ∃ log, g.effective test = .ok ⟨g.valueOf test, log⟩ := by
  have hend : ∃ t, g.effective test = .ok t := by
    cases hb : g.snapshot.buckets.get? test with
    | none => exact ⟨_, g.effective_of_absent hb⟩
    | some bucket => exact h test (Dict.mem_keys_of_get? hb)
  obtain ⟨⟨e, log⟩, ht⟩ := hend
  refine ⟨log, ?_⟩
  rw [valueOf, ht]
  rfl

theorem Resolves.reply_ask (h : g.Resolves) (test : String) :
    g.reply (.ask test) = .ok (g.valueOf test) := by
  obtain ⟨log, ht⟩ := h.exists_effective test
  rw [Groups.reply_ask, ht]
  rfl

theorem Resolves.reply_hook (h : g.Resolves) {test : String} {bucket : Bucket}
    (hb : g.snapshot.buckets.get? test = some bucket) :
    ∃ e, g.reply (g.hook g.snapshot test bucket) = .ok e ∧ g.valueOf test = some e := by
  have ha := h.reply_ask test
  rw [g.reply_ask_of_present hb] at ha
  cases hr : g.reply (g.hook g.snapshot test bucket) with
  | error k =>
    rw [hr] at ha
    cases ha
  | ok e =>
    rw [hr] at ha
    exact ⟨e, rfl, (Except.ok.inj ha).symm⟩

theorem resolves_of_reply (h : ∀ test, ∃ e, g.reply (.ask test) = .ok e) : g.Resolves := by
  intro test _
  obtain ⟨e, he⟩ := h test
  rw [reply_ask] at he
  cases ht : g.effective test with
  | error k =>
    rw [ht] at he
    cases he
  | ok t => exact ⟨t, rfl⟩

end Groups

/-! ## Queries about one test -/

namespace Query

variable {p : String → Prop} {test : String}

theorem asksOnly_isActive (h : p test) (n : Int) (default : Option Int) :
    (isActive test n default).AsksOnly p :=
  (asksOnly_ask h).bind fun _ => asksOnly_pure _

theorem asksOnly_bucket (h : p test) (s : Snapshot) : (bucket s test).AsksOnly p :=
  (asksOnly_ask h).bind fun _ => (asksOnly_write _).bind fun _ => asksOnly_pure _

theorem asksOnly_metadata (h : p test) (s : Snapshot) (facet : Facet)
    (fallback : Option Metadata) : (metadata s facet test fallback).AsksOnly p := by
  refine (asksOnly_ask h).bind fun e => (asksOnly_write _).bind fun _ => ?_
  split
  · exact asksOnly_pure _
  · exact (asksOnly_report _).bind fun _ => asksOnly_pure _

theorem asksOnly_payload (h : p test) (s : Snapshot) (fallback : Option Metadata) :
    (payload s test fallback).AsksOnly p :=
  (asksOnly_metadata h s .payload fallback).bind fun _ => asksOnly_pure _

theorem asksOnly_description (h : p test) (s : Snapshot) (fallback : Option Metadata) :
    (description s test fallback).AsksOnly p :=
  (asksOnly_metadata h s .description fallback).bind fun _ => asksOnly_pure _

end Query

/-! ## Inquiries -/

/-- **What a client asks** of a snapshot with a hook, apart from the bucket of a test: an answer in
the given type. -/
inductive Inquiry : Type → Type
  | isEmpty : Inquiry Bool
  | value (test : String) (default : Int) : Inquiry Int
  | isActive (test : String) (value : Int) (default : Option Int) : Inquiry Bool
  | payload (test : String) (fallback : Option Metadata) : Inquiry Payload
  | description (test : String) (fallback : Option Metadata) : Inquiry String
  | loggedNames : Inquiry (List String)
  | append (form : EntryForm) (separator : String) (names : List String) (buffer : String) :
    Inquiry Appended
  | allEntries (separator : String) : Inquiry String
  | loggingString : Inquiry String
  | longString : Inquiry String
  | configuration : Inquiry (Dict Int)
  | requestedConfiguration (tests : List RequestedTest) : Inquiry (List (Int × Option Json))

/-- The query on a snapshot that an inquiry makes. -/
def Inquiry.query (s : Snapshot) {α : Type} : Inquiry α → Query α
  | isEmpty => pure s.buckets.isEmpty
  | value test default => .value test default
  | isActive test n default => .isActive test n default
  | payload test fallback => .payload s test fallback
  | description test fallback => .description s test fallback
  | loggedNames => .loggedNames s
  | append form separator names buffer => .append s form separator names buffer
  | allEntries separator => .allEntries s separator
  | loggingString => .loggingString s
  | longString => .longString s
  | configuration => .configuration s
  | requestedConfiguration tests => .requestedConfiguration s tests

end ExperimentGroups
