import ExperimentGroups.Proofs.History
import ExperimentGroups.Proofs.Rendering

/-!
# Tests do not interfere with each other

A query about a test reads the snapshot under the name of the test only, and the rules ask for
hold-out tests only. So two snapshots that agree on a test and on the hold-out tests in them answer
every query about the test alike, whatever else is in them. A new test that is no hold-out test
leaves the entries of all others as they are, and its own come in at their sorted places.

## Main definitions

* `Snapshot.AgreeOn`: two snapshots with the same bucket and the same definition of a test
* `Snapshot.Adds`: a snapshot with one more test
* `Groups.Inserts`: renderings that differ by the entries of one test

## Main results

* `Query.AsksOnly.run_congr`: the run of a query depends on what it asks for
* `Override.effective_congr`: snapshots that agree on a test and on the hold-out tests have the same
  effective value of the test
* `Override.run_congr`: and the same runs of every query about the test
* `Override.independence`: tests do not interfere with each other except through the hold-out
-/

namespace ExperimentGroups

/-! ## Agreement on a test -/

namespace Snapshot

/-- **Two snapshots agree on a test**: on its bucket and on its definition. -/
structure AgreeOn (s s' : Snapshot) (test : String) : Prop where
  bucket : s.buckets.get? test = s'.buckets.get? test
  definition : s.definitions.get? test = s'.definitions.get? test

variable {s s' : Snapshot} {test : String}

theorem definitionBucket_congr (h : s.definitions.get? test = s'.definitions.get? test)
    (value : Int) : s.definitionBucket test value = s'.definitionBucket test value := by
  simp only [definitionBucket, h]

theorem AgreeOn.activeBucket_eq (h : s.AgreeOn s' test) (effective : Option Int) :
    s.activeBucket test effective = s'.activeBucket test effective := by
  simp only [activeBucket, h.bucket, definitionBucket_congr h.definition]

theorem entry?_congr (h : s.allocations.get? test = s'.allocations.get? test) (form : EntryForm) :
    s.entry? form test = s'.entry? form test := by
  funext value
  unfold entry?
  rw [h]

theorem AgreeOn.sources_eq (h : s.AgreeOn s' test) (effective : Option Int)
    (fallback : Option Metadata) :
    s.sources test effective fallback = s'.sources test effective fallback := by
  simp only [sources, fallbackDefinition, h.activeBucket_eq, definitionBucket_congr h.definition]

end Snapshot

namespace Query

variable {α : Type} {s s' : Snapshot} {test : String}

theorem bucket_congr (h : s.AgreeOn s' test) : bucket s test = bucket s' test := by
  simp only [bucket, h.activeBucket_eq]

theorem metadata_congr (h : s.AgreeOn s' test) (facet : Facet) (fallback : Option Metadata) :
    metadata s facet test fallback = metadata s' facet test fallback := by
  simp only [metadata, h.sources_eq]

theorem payload_congr (h : s.AgreeOn s' test) (fallback : Option Metadata) :
    payload s test fallback = payload s' test fallback := by
  simp only [payload, metadata_congr h]

theorem description_congr (h : s.AgreeOn s' test) (fallback : Option Metadata) :
    description s test fallback = description s' test fallback := by
  simp only [description, metadata_congr h]

theorem described_congr (h : s.AgreeOn s' test) : described s test = described s' test := by
  simp only [described, description_congr h]

theorem entry_congr (h : s.allocations.get? test = s'.allocations.get? test) (form : EntryForm) :
    entry s form test = entry s' form test := by
  simp only [entry, Snapshot.entry?_congr h]

/-! ## Runs -/

variable {p : String → Prop} {effective effective' : String → Outcome (Option Int)}

theorem AsksOnly.mono {p' : String → Prop} {q : Query α} (hq : q.AsksOnly p)
    (h : ∀ name, p name → p' name) : q.AsksOnly p' := by
  induction q with
  | answer a => trivial
  | asking name next ih => exact ⟨h name hq.1, fun e => ih e (hq.2 e)⟩
  | reporting message rest ih => exact ih hq
  | writing n rest ih => exact ih hq

/-- **The run of a query depends on what it asks for** only. -/
theorem AsksOnly.run_congr {q : Query α} (hq : q.AsksOnly p)
    (h : ∀ name, p name → effective name = effective' name) :
    q.run effective = q.run effective' := by
  induction q with
  | answer a => rfl
  | asking name next ih =>
    have hnext : (fun e => (next e).run effective) = fun e => (next e).run effective' :=
      funext fun e => ih e (hq.2 e)
    rw [run, run, h name hq.1, hnext]
  | reporting message rest ih => rw [run, run, ih hq]
  | writing n rest ih => rw [run, run, ih hq]

theorem asksOnly_described (h : p test) (s : Snapshot) : (described s test).AsksOnly p :=
  (asksOnly_description h s none).bind fun _ => asksOnly_pure _

theorem asksOnly_value (h : p test) (default : Int) : (value test default).AsksOnly p :=
  (asksOnly_ask h).bind fun _ => asksOnly_pure _

theorem asksOnly_entry (h : p test) (s : Snapshot) (form : EntryForm) :
    (entry s form test).AsksOnly p := by
  refine (asksOnly_ask h).bind fun e => ?_
  split
  · exact asksOnly_pure _
  · exact (asksOnly_write _).bind fun _ => asksOnly_pure _

end Query

/-! ## Rules -/

namespace Override

variable {s s' : Snapshot} {plan? : Option (Plan Override)} {test : String}

/-- A rule reads the definition of the test and nothing else of a snapshot. -/
theorem hook_congr (h : s.definitions.get? test = s'.definitions.get? test) (bucket : Bucket)
    (rule : Override) : rule.hook s test bucket = rule.hook s' test bucket := by
  cases rule <;> simp only [hook, Hook.keep, pinned, heldOut, h]

theorem chain_hook_congr (h : s.definitions.get? test = s'.definitions.get? test) (bucket : Bucket)
    (rules : List Override) :
    Hook.chain (rules.map hook) s test bucket = Hook.chain (rules.map hook) s' test bucket := by
  induction rules generalizing bucket with
  | nil => rfl
  | cons rule rules ih =>
    rw [List.map_cons, Hook.chain_cons, Hook.chain_cons, hook_congr h bucket rule]
    exact congrArg _ (funext fun value => ih { bucket with value })

theorem asksOnly_hook (bucket : Bucket) (rule : Override) :
    (rule.hook s test bucket).AsksOnly (· ∈ asked test rule) := by
  cases rule with
  | keep => trivial
  | pin pins => trivial
  | holdout holdoutTest value =>
    by_cases ht : test = holdoutTest
    · simp only [hook, ht, if_true]
      trivial
    · simp only [hook, ht, if_false]
      have hm : holdoutTest ∈ asked test (.holdout holdoutTest value) := by simp [asked, ht]
      exact (Query.asksOnly_isActive hm value none).bind fun _ => Query.asksOnly_pure _

theorem asksOnly_chain (bucket : Bucket) (rules : List Override) :
    (Hook.chain (rules.map hook) s test bucket).AsksOnly (· ∈ askedOf test rules) := by
  induction rules generalizing bucket with
  | nil => trivial
  | cons rule rules ih =>
    rw [List.map_cons, Hook.chain_cons]
    refine ((asksOnly_hook bucket rule).mono fun name hm => ?_).bind fun value =>
      (ih { bucket with value }).mono fun name hm => ?_
    · exact List.mem_append_left _ hm
    · exact List.mem_append_right _ hm

/-! ## Effective values -/

/-- Snapshots that agree on the hold-out tests in them agree, at every depth, on the value of a test
that they agree on. -/
theorem effectiveWithin_congr
    (hsame : presentHoldouts s' (rules plan?) = presentHoldouts s (rules plan?))
    (hholdouts : ∀ name ∈ presentHoldouts s (rules plan?), s.AgreeOn s' name) (depth : Nat)
    {test : String} (h : s.AgreeOn s' test) :
    (groups s plan?).effectiveWithin depth test = (groups s' plan?).effectiveWithin depth test := by
  induction depth generalizing test with
  | zero => simp only [Groups.effectiveWithin, groups, h.bucket]
  | succ depth ih =>
    cases hb : s.buckets.get? test with
    | none =>
      rw [(groups s plan?).effectiveWithin_of_absent hb,
        (groups s' plan?).effectiveWithin_of_absent (h.bucket ▸ hb)]
    | some bucket =>
      -- The rules ask for hold-out tests, which are in both snapshots or in neither.
      have hasked : ∀ name ∈ askedOf test (rules plan?),
          (groups s plan?).effectiveWithin depth name =
            (groups s' plan?).effectiveWithin depth name := by
        intro name hm
        have hrule := ((mem_askedOf test).1 hm).2
        by_cases hkey : name ∈ s.buckets.keys
        · exact ih (hholdouts name ⟨hkey, hrule⟩)
        · have hkey' : name ∉ s'.buckets.keys := fun hk =>
            hkey (hsame.subset ⟨hk, hrule⟩).1
          rw [(groups s plan?).effectiveWithin_of_absent
              ((s.buckets.get?_eq_none_iff name).2 hkey),
            (groups s' plan?).effectiveWithin_of_absent
              ((s'.buckets.get?_eq_none_iff name).2 hkey')]
      rw [effectiveWithin_succ hb, effectiveWithin_succ (h.bucket ▸ hb),
        (asksOnly_chain bucket (rules plan?)).run_congr hasked, chain_hook_congr h.definition]

/-- **Snapshots that agree on a test and on the hold-out tests in them** have the same effective
value of the test. -/
theorem effective_congr
    (hsame : presentHoldouts s' (rules plan?) = presentHoldouts s (rules plan?))
    (hholdouts : ∀ name ∈ presentHoldouts s (rules plan?), s.AgreeOn s' name)
    (h : s.AgreeOn s' test) :
    (groups s plan?).effective test = (groups s' plan?).effective test := by
  -- Both runs are complete at the greater of the two numbers of buckets.
  rw [← (groups s plan?).effectiveWithin_of_size_le
      (Nat.le_max_left s.buckets.size s'.buckets.size),
    ← (groups s' plan?).effectiveWithin_of_size_le
      (Nat.le_max_right s.buckets.size s'.buckets.size)]
  exact effectiveWithin_congr hsame hholdouts _ h

/-- **The same query about the test** has the same run in both, with the same messages. -/
theorem run_congr {α : Type} {q : Query α} (hq : q.AsksOnly (· = test))
    (hsame : presentHoldouts s' (rules plan?) = presentHoldouts s (rules plan?))
    (hholdouts : ∀ name ∈ presentHoldouts s (rules plan?), s.AgreeOn s' name)
    (h : s.AgreeOn s' test) : (groups s plan?).run q = (groups s' plan?).run q := by
  refine hq.run_congr fun name hname => ?_
  subst hname
  exact effective_congr hsame hholdouts h

end Override

/-! ## One more test -/

/-- **A snapshot with one more test**: the others are as before, in any order. -/
structure Snapshot.Adds (s s' : Snapshot) (test : String) : Prop where
  absent : test ∉ s.buckets.keys
  present : test ∈ s'.buckets.keys
  agreeOn : ∀ other, other ≠ test → s.AgreeOn s' other
  allocation : ∀ other, other ≠ test → s.allocations.get? other = s'.allocations.get? other

namespace Snapshot.Adds

variable {s s' : Snapshot} {test : String}

theorem mem_keys_iff (h : s.Adds s' test) (other : String) :
    other ∈ s'.buckets.keys ↔ other = test ∨ other ∈ s.buckets.keys := by
  by_cases ho : other = test
  · subst ho
    exact iff_of_true h.present (.inl rfl)
  · rw [Dict.mem_keys_iff, Dict.mem_keys_iff, (h.agreeOn other ho).bucket, or_iff_right ho]

/-- **The sorted names**: the new one comes in between the smaller and the greater ones. -/
theorem exists_sortNames (h : s.Adds s' test) :
    ∃ before after, sortNames s.buckets.keys = before ++ after ∧
      sortNames s'.buckets.keys = before ++ test :: after ∧
      (∀ other ∈ before, other < test) ∧ ∀ other ∈ after, test < other := by
  obtain ⟨before, after, hsplit, hinsert, hbefore, hafter⟩ := exists_sortNames_split h.absent
  refine ⟨before, after, hsplit, ?_, hbefore, hafter⟩
  have hperm : s'.buckets.keys.Perm (test :: s.buckets.keys) := by
    refine (List.perm_ext_iff_of_nodup s'.buckets.distinct ?_).2 fun other => ?_
    · exact List.nodup_cons.2 ⟨h.absent, s.buckets.distinct⟩
    · rw [List.mem_cons]
      exact h.mem_keys_iff other
  rw [← hinsert]
  exact eq_sortNames ((sortNames_perm _).trans hperm.symm) (pairwise_sortNames _)

theorem presentHoldouts_eq (h : s.Adds s' test) {rules : List Override}
    (hrules : ∀ value, .holdout test value ∉ rules) :
    Override.presentHoldouts s' rules = Override.presentHoldouts s rules := by
  ext name
  refine and_congr_left fun ⟨value, hrule⟩ => ?_
  rw [h.mem_keys_iff, or_iff_right]
  rintro rfl
  exact hrules value hrule

end Snapshot.Adds

namespace Groups

/-- **Renderings that differ by the entries of one test**, which come in between the entries of the
smaller and of the greater names, in the logging string once in each of its two segments. It has no
string if a value that it shows is too long to be written. -/
structure Inserts (g g' : Groups) (test : String) (before after : List String) : Prop where
  names : sortNames g.snapshot.buckets.keys = before ++ after
  names' : sortNames g'.snapshot.buckets.keys = before ++ test :: after
  lt : ∀ other ∈ before, other < test
  gt : ∀ other ∈ after, test < other
  logging : g.reply (.loggingString g.snapshot) =
    if g.isLoggable (before ++ after) then
      .ok (",".intercalate (g.segment .plain before ++ g.segment .plain after ++
        (g.segment .allocated before ++ g.segment .allocated after)))
    else .error .excess
  logging' : g'.reply (.loggingString g'.snapshot) =
    if g.isLoggable (before ++ after) && g'.isLoggable [test] then
      .ok (",".intercalate (
        g.segment .plain before ++ (g'.loggedEntry .plain test).toList ++ g.segment .plain after ++
        (g.segment .allocated before ++ (g'.loggedEntry .allocated test).toList ++
          g.segment .allocated after)))
    else .error .excess
  plain_of_allocated : (g'.loggedEntry .allocated test).isSome → (g'.loggedEntry .plain test).isSome
  long : ∃ parts parts' own,
    before.mapM (fun other => g.reply (.described g.snapshot other)) = .ok parts ∧
    after.mapM (fun other => g.reply (.described g.snapshot other)) = .ok parts' ∧
    g'.reply (.described g'.snapshot test) = .ok own ∧
    g.reply (.longString g.snapshot) = .ok (",".intercalate (parts ++ parts')) ∧
    g'.reply (.longString g'.snapshot) = .ok (",".intercalate (parts ++ own :: parts'))

variable {g g' : Groups} {form : EntryForm}

theorem loggedEntry_congr {test : String} (hvalue : g.valueOf test = g'.valueOf test)
    (hallocation : g.snapshot.allocations.get? test = g'.snapshot.allocations.get? test) :
    g.loggedEntry form test = g'.loggedEntry form test := by
  simp only [loggedEntry, hvalue, Snapshot.entry?_congr hallocation]

/-- A test has an allocated entry only if it is logged, and then it has a plain one. -/
theorem isSome_loggedEntry_plain {test : String} (h : (g.loggedEntry .allocated test).isSome) :
    (g.loggedEntry .plain test).isSome := by
  rw [loggedEntry_plain, Option.isSome_map]
  cases hv : (g.valueOf test).filter (0 ≤ ·) with
  | none => simp [loggedEntry, hv] at h
  | some e => rfl

theorem segment_congr {names : List String}
    (h : ∀ test ∈ names, g.loggedEntry form test = g'.loggedEntry form test) :
    g.segment form names = g'.segment form names :=
  List.filterMap_congr h

theorem isLoggable_congr {names : List String}
    (h : ∀ test ∈ names, g.valueOf test = g'.valueOf test) :
    g.isLoggable names = g'.isLoggable names := by
  rw [Bool.eq_iff_iff, isLoggable, isLoggable, List.all_eq_true, List.all_eq_true]
  exact forall₂_congr fun test hm => by rw [h test hm]

/-- Where the other tests keep their values, their entries and their descriptions, the renderings
differ by the entries of the new test. -/
theorem Inserts.intro {test : String} {before after : List String} (h : g.Resolves)
    (h' : g'.Resolves) (names : sortNames g.snapshot.buckets.keys = before ++ after)
    (names' : sortNames g'.snapshot.buckets.keys = before ++ test :: after)
    (lt : ∀ other ∈ before, other < test) (gt : ∀ other ∈ after, test < other)
    (hvalue : ∀ other ∈ before ++ after, g'.valueOf other = g.valueOf other)
    (hentry : ∀ form, ∀ other ∈ before ++ after,
      g'.loggedEntry form other = g.loggedEntry form other)
    (hdescribed : ∀ other ∈ before ++ after,
      g'.reply (.described g'.snapshot other) = g.reply (.described g.snapshot other))
    {parts parts' : List String} {own : String}
    (hparts : before.mapM (fun other => g.reply (.described g.snapshot other)) = .ok parts)
    (hparts' : after.mapM (fun other => g.reply (.described g.snapshot other)) = .ok parts')
    (hown : g'.reply (.described g'.snapshot test) = .ok own) :
    g.Inserts g' test before after where
  names := names
  names' := names'
  lt := lt
  gt := gt
  plain_of_allocated := isSome_loggedEntry_plain
  logging := by rw [reply_loggingString h, names, segment_append, segment_append]
  logging' := by
    have hsegment : ∀ form, g'.segment form (before ++ test :: after) =
        g.segment form before ++ (g'.loggedEntry form test).toList ++ g.segment form after := by
      intro form
      rw [segment_append, segment_cons, List.append_assoc,
        segment_congr fun other hm => hentry form other (List.mem_append_left after hm),
        segment_congr fun other hm => hentry form other (List.mem_append_right before hm)]
    have hloggable : g'.isLoggable (before ++ test :: after) =
        (g.isLoggable (before ++ after) && g'.isLoggable [test]) := by
      rw [← isLoggable_congr hvalue, isLoggable_append, isLoggable_append, isLoggable_cons,
        Bool.and_assoc, Bool.and_comm (g'.isLoggable [test])]
    rw [reply_loggingString h', names', hloggable, hsegment, hsegment]
  long := by
    have hbefore : before.mapM (fun other => g'.reply (.described g'.snapshot other)) =
        .ok parts := by
      rw [← hparts]
      exact mapM_congr fun other hm => hdescribed other (List.mem_append_left after hm)
    have hafter : after.mapM (fun other => g'.reply (.described g'.snapshot other)) =
        .ok parts' := by
      rw [← hparts']
      exact mapM_congr fun other hm => hdescribed other (List.mem_append_right before hm)
    refine ⟨parts, parts', own, hparts, hparts', hown, ?_, ?_⟩
    · rw [reply_longString, names, List.mapM_append, hparts, hparts']
      rfl
    · rw [reply_longString, names', List.mapM_append, List.mapM_cons, hbefore, hafter, hown]
      rfl

end Groups

namespace Override

variable {s s' : Snapshot} {plan? : Option (Plan Override)} {test : String}

/-- **Without a fallback only the active bucket is searched**, and no reason holds an integer. -/
theorem reply_metadata_none (h : (presentHoldouts s (rules plan?)).Subsingleton) (facet : Facet)
    (test : String) :
    (groups s plan?).reply (.metadata s facet test none) =
      .ok (((s.activeBucket test ((groups s plan?).valueOf test)).value?.map
        Bucket.metadata).filter facet.isIn) := by
  rw [Groups.reply_metadata ((resolves h).reply_ask test)]
  cases hb : s.buckets.get? test with
  | none =>
    rw [Snapshot.sources, s.activeBucket_of_absent hb]
    rfl
  | some bucket =>
    obtain ⟨b, ha⟩ := exists_activeBucket h hb
    rw [Snapshot.sources, ha]
    by_cases hin : facet.isIn b.metadata = true
    · simp [Facet.search, Lookup.map, Lookup.value?, Lookup.filter, Lookup.first, Option.filter, hin]
    · rw [Facet.search_cons_of_not_isIn (by simpa [Lookup.map, Lookup.value?] using hin)]
      simp [Lookup.map, Lookup.value?, Option.filter, hin]
      rfl

/-- Under rules every test can be described. -/
theorem exists_reply_described (h : (presentHoldouts s (rules plan?)).Subsingleton)
    (test : String) : ∃ part, (groups s plan?).reply (.described s test) = .ok part := by
  rw [Query.described, Groups.reply_bind_pure, Query.description, Groups.reply_bind_pure,
    reply_metadata_none h]
  exact ⟨_, rfl⟩

theorem exists_mapM_described (h : (presentHoldouts s (rules plan?)).Subsingleton)
    (names : List String) :
    ∃ parts, names.mapM (fun test => (groups s plan?).reply (.described s test)) = .ok parts := by
  choose part hpart using fun test => exists_reply_described h test
  exact ⟨_, mapM_eq_ok fun test _ => hpart test⟩

/-- **A new test that is no hold-out test** only inserts its own entries. -/
theorem exists_inserts (h : (presentHoldouts s (rules plan?)).Subsingleton)
    (hadds : s.Adds s' test) (hrules : ∀ value, .holdout test value ∉ rules plan?) :
    ∃ before after, (groups s plan?).Inserts (groups s' plan?) test before after := by
  obtain ⟨before, after, hnames, hnames', hlt, hgt⟩ := hadds.exists_sortNames
  have hsame := hadds.presentHoldouts_eq hrules
  have h' : (presentHoldouts s' (rules plan?)).Subsingleton := hsame ▸ h
  have hholdouts : ∀ name ∈ presentHoldouts s (rules plan?), s.AgreeOn s' name := by
    intro name hname
    refine hadds.agreeOn name ?_
    rintro rfl
    exact hadds.absent hname.1
  have hother : ∀ other ∈ before ++ after, other ≠ test := by
    intro other hm
    rcases List.mem_append.1 hm with hm | hm
    · exact (hlt other hm).ne
    · exact (hgt other hm).ne'
  -- The other tests keep their values, their entries and their descriptions.
  have hvalue : ∀ other ∈ before ++ after,
      (groups s' plan?).valueOf other = (groups s plan?).valueOf other := by
    intro other hm
    rw [Groups.valueOf, Groups.valueOf,
      effective_congr hsame hholdouts (hadds.agreeOn other (hother other hm))]
  have hentry : ∀ form, ∀ other ∈ before ++ after,
      (groups s' plan?).loggedEntry form other = (groups s plan?).loggedEntry form other :=
    fun form other hm => Groups.loggedEntry_congr (hvalue other hm)
      (hadds.allocation other (hother other hm)).symm
  have hdescribed : ∀ other ∈ before ++ after,
      (groups s' plan?).reply (.described s' other) =
        (groups s plan?).reply (.described s other) := by
    intro other hm
    have hagree := hadds.agreeOn other (hother other hm)
    rw [Groups.reply, Groups.reply, ← Query.described_congr hagree,
      run_congr (Query.asksOnly_described (p := (· = other)) rfl s) hsame hholdouts hagree]
  obtain ⟨parts, hparts⟩ := exists_mapM_described h before
  obtain ⟨parts', hparts'⟩ := exists_mapM_described h after
  obtain ⟨own, hown⟩ := exists_reply_described h' test
  exact ⟨before, after, .intro (resolves h) (resolves h') hnames hnames' hlt hgt hvalue hentry
    hdescribed hparts hparts' hown⟩

variable (s plan?)

/-- **Tests do not interfere with each other except through the hold-out.** Two snapshots that have
the same hold-out tests and agree on them answer every query about a test that they agree on alike,
with the same messages, and show the same entries for it. So a new test that is no hold-out test
comes into the renderings with its own entries and changes no other one. -/
theorem independence :
    (∀ s' test, presentHoldouts s' (rules plan?) = presentHoldouts s (rules plan?) →
      (∀ name ∈ presentHoldouts s (rules plan?), s.AgreeOn s' name) → s.AgreeOn s' test →
        (∀ default, (groups s' plan?).run (.value test default) =
          (groups s plan?).run (.value test default)) ∧
        (∀ value default, (groups s' plan?).run (.isActive test value default) =
          (groups s plan?).run (.isActive test value default)) ∧
        (groups s' plan?).run (.bucket s' test) = (groups s plan?).run (.bucket s test) ∧
        (∀ fallback, (groups s' plan?).run (.payload s' test fallback) =
          (groups s plan?).run (.payload s test fallback)) ∧
        (∀ fallback, (groups s' plan?).run (.description s' test fallback) =
          (groups s plan?).run (.description s test fallback)) ∧
        (s.allocations.get? test = s'.allocations.get? test → ∀ form,
          (groups s' plan?).run (.entry s' form test) =
              (groups s plan?).run (.entry s form test) ∧
            (groups s' plan?).loggedEntry form test = (groups s plan?).loggedEntry form test)) ∧
    ((presentHoldouts s (rules plan?)).Subsingleton →
      ∀ s' test, s.Adds s' test → (∀ value, .holdout test value ∉ rules plan?) →
        ∃ before after, (groups s plan?).Inserts (groups s' plan?) test before after) := by
  refine ⟨fun s' test hsame hholdouts h => ?_, fun h s' test hadds hrules =>
    exists_inserts h hadds hrules⟩
  have hrun : ∀ {α : Type} {q : Query α}, q.AsksOnly (· = test) →
      (groups s' plan?).run q = (groups s plan?).run q :=
    fun hq => (run_congr hq hsame hholdouts h).symm
  refine ⟨fun default => ?_, fun value default => ?_, ?_, fun fallback => ?_, fun fallback => ?_,
    fun hallocation form => ⟨?_, ?_⟩⟩
  · exact hrun (Query.asksOnly_value rfl default)
  · exact hrun (Query.asksOnly_isActive rfl value default)
  · rw [Query.bucket_congr h]
    exact hrun (Query.asksOnly_bucket (p := (· = test)) rfl s')
  · rw [Query.payload_congr h]
    exact hrun (Query.asksOnly_payload (p := (· = test)) rfl s' fallback)
  · rw [Query.description_congr h]
    exact hrun (Query.asksOnly_description (p := (· = test)) rfl s' fallback)
  · rw [Query.entry_congr hallocation]
    exact hrun (Query.asksOnly_entry (p := (· = test)) rfl s' form)
  · refine Groups.loggedEntry_congr ?_ hallocation.symm
    rw [Groups.valueOf, Groups.valueOf, effective_congr hsame hholdouts h]

/-- The sample with one more test, in bucket three, without a definition. -/
def extended : Snapshot :=
  ⟨"", .ofList [("menu", .bare 3), ("hold", .bare 1), ("page", .bare 1)], .empty,
    .ofList [("hold", declaring [1, 2]), ("page", declaring [0, 1, 2])]⟩

theorem adds_extended : sample.Adds extended "menu" where
  absent := by decide
  present := by decide
  agreeOn other ho := by
    refine ⟨?_, rfl⟩
    show _ = Dict.findEntry other (("menu", .bare 3) :: sample.buckets.entries)
    rw [Dict.findEntry, if_neg (Ne.symm ho)]
    rfl
  allocation _ _ := rfl

/-- The third test leaves the value of the other one alone and has an entry of its own. -/
theorem independence_extended :
    (groups extended (Override.plan (some "hold") 1 .empty)).run (.value "page" 5) =
        (groups sample (Override.plan (some "hold") 1 .empty)).run (.value "page" 5) ∧
      ∃ before after, (groups sample (Override.plan (some "hold") 1 .empty)).Inserts
        (groups extended (Override.plan (some "hold") 1 .empty)) "menu" before after := by
  have hrules : ∀ value,
      .holdout "menu" value ∉ rules (Override.plan (some "hold") 1 .empty) := by
    intro value hm
    obtain ⟨hname, -⟩ := Override.holdout.inj (List.mem_singleton.1 hm)
    exact absurd hname (by decide)
  have hsame := adds_extended.presentHoldouts_eq hrules
  obtain ⟨hagree, hadds⟩ := independence sample (Override.plan (some "hold") 1 .empty)
  refine ⟨(hagree extended "page" hsame (fun name hname => ?_) ?_).1 5, ?_⟩
  · refine adds_extended.agreeOn name ?_
    rintro rfl
    exact adds_extended.absent hname.1
  · exact adds_extended.agreeOn "page" (by decide)
  · exact hadds (presentHoldouts_plan _ _ _ _) extended "menu" adds_extended hrules

end Override

end ExperimentGroups
