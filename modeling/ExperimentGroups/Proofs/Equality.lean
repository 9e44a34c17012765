import ExperimentGroups.Proofs.Likeness

/-!
# Equality by value is all that shows

Every query looks things up by name or goes through the names in their own order, so no query tells
related snapshots apart. What is handed out, a bucket, a payload or a projection, is related again:
for snapshots that are equal by value it is equal by value, and for snapshots that differ in the
order of their tests only it is the same.

## Main definitions

* `ReplyAlike`: replies that are related, or fail for the same reason
* `Metadata.Alike`: sources that know related things
* `Groups.Indistinguishable`: snapshots with hooks that no query tells apart

## Main results

* `Likeness.search_alike`: every search finds related things
* `Likeness.Alike.projected_alike`: projections are related
* `Override.equality_is_invisible`: no query tells snapshots apart that are equal by value
-/

namespace ExperimentGroups

/-! ## Replies and sources -/

/-- **Replies that are related**: answers that are, or the same reason for no answer. -/
inductive ReplyAlike {α β : Type} (r : α → β → Prop) : Except Halt α → Except Halt β → Prop
  | halt (k : Halt) : ReplyAlike r (.error k) (.error k)
  | answer {a : α} {b : β} (h : r a b) : ReplyAlike r (.ok a) (.ok b)

theorem ReplyAlike.map {α β γ δ : Type} {r : α → β → Prop} {r' : γ → δ → Prop} {f : α → γ}
    {f' : β → δ} {a : Except Halt α} {b : Except Halt β} (h : ReplyAlike r a b)
    (hf : ∀ x y, r x y → r' (f x) (f' y)) : ReplyAlike r' (a.map f) (b.map f') := by
  cases h with
  | halt k => exact .halt k
  | answer hxy => exact .answer (hf _ _ hxy)

theorem ReplyAlike.eq {α : Type} {a b : Except Halt α} (h : ReplyAlike Eq a b) : a = b := by
  cases h with
  | halt k => rfl
  | answer h => rw [h]

/-- **Sources that know related things**, or the same ones. -/
structure Metadata.Alike (r : Payload → Payload → Prop) (m n : Metadata) : Prop where
  value : m.value = n.value
  description : m.description = n.description
  payload : m.payload = n.payload ∨ r m.payload n.payload

/-- Lookups that are related: hits that are, or misses for the same reason. -/
inductive Lookup.Alike {ρ α β : Type} (r : α → β → Prop) : Lookup ρ α → Lookup ρ β → Prop
  | found {a : α} {b : β} (h : r a b) : Alike r (.found a) (.found b)
  | missing (reason : ρ) : Alike r (.missing reason) (.missing reason)

theorem sortNames_eq_of_perm {names others : List String} (h : names.Perm others) :
    sortNames names = sortNames others :=
  eq_sortNames ((sortNames_perm others).trans h.symm) (pairwise_sortNames others)

namespace Likeness

variable {l : Likeness} {s s' : Snapshot}

/-! ## Searches -/

theorem Alike.definitionBucket_alike (h : l.Alike s s') (test : String) (v : Int) :
    Lookup.Alike (Bucket.Alike l.payload) (s.definitionBucket test v)
      (s'.definitionBucket test v) := by
  have hdefinition := h.definitions test
  unfold Snapshot.definitionBucket
  generalize s.definitions.get? test = d at hdefinition ⊢
  generalize s'.definitions.get? test = e at hdefinition ⊢
  cases hdefinition with
  | none => exact .missing _
  | @some d e hde =>
    have hfind : Option.Rel (Bucket.Alike l.payload) (d.bucket? v) (e.bucket? v) :=
      rel_find? (l.buckets hde) v
    dsimp only
    generalize d.bucket? v = b at hfind ⊢
    generalize e.bucket? v = c at hfind ⊢
    cases hfind with
    | none => exact .missing _
    | some hbc => exact .found hbc

theorem Alike.activeBucket_alike (h : l.Alike s s') (test : String) (effective : Option Int) :
    Lookup.Alike (Bucket.Alike l.payload) (s.activeBucket test effective)
      (s'.activeBucket test effective) := by
  have hbucket := h.buckets test
  unfold Snapshot.activeBucket
  generalize s.buckets.get? test = b at hbucket ⊢
  generalize s'.buckets.get? test = c at hbucket ⊢
  cases hbucket with
  | none => exact .missing _
  | @some b c hbc =>
    cases effective with
    | none => exact .missing _
    | some e =>
      simp only [Lookup.filter, hbc.value]
      split
      · exact .found hbc
      · exact h.definitionBucket_alike test e

theorem metadata_alike {b c : Bucket} (h : b.Alike l.payload c) :
    b.metadata.Alike l.payload c.metadata where
  value := h.value
  description := h.description
  payload := by
    have hpayload := h.payload
    unfold Bucket.metadata Bucket.payloadOrEmpty
    dsimp only
    generalize b.payload = p at hpayload ⊢
    generalize c.payload = q at hpayload ⊢
    cases hpayload with
    | none => exact .inl rfl
    | some hpq => exact .inr hpq

theorem isIn_eq {m n : Metadata} (h : m.Alike l.payload n) (facet : Facet) :
    facet.isIn m = facet.isIn n := by
  cases facet with
  | payload =>
    show (!m.payload.isEmpty) = !n.payload.isEmpty
    rcases h.payload with hpayload | hpayload
    · rw [hpayload]
    · rw [l.isEmpty_eq hpayload]
  | description =>
    show (!m.description.isEmpty) = !n.description.isEmpty
    rw [h.description]

/-- The three sources are related, the fallback to itself. -/
theorem Alike.sources_alike (h : l.Alike s s') (test : String) (effective : Option Int)
    (fallback : Option Metadata) :
    List.Forall₂ (Lookup.Alike (Metadata.Alike l.payload)) (s.sources test effective fallback)
      (s'.sources test effective fallback) := by
  have hmap : ∀ {a b : Lookup Miss Bucket}, a.Alike (Bucket.Alike l.payload) b →
      (a.map Bucket.metadata).Alike (Metadata.Alike l.payload) (b.map Bucket.metadata) := by
    intro a b hab
    cases hab with
    | found hbc => exact .found (metadata_alike hbc)
    | missing reason => exact .missing reason
  refine .cons (hmap (h.activeBucket_alike test effective)) (.cons (hmap ?_) (.cons ?_ .nil))
  · cases fallback with
    | none => exact .missing _
    | some f => exact h.definitionBucket_alike test f.value
  · cases Snapshot.fallbackItself effective fallback with
    | found m => exact .found ⟨rfl, rfl, .inl rfl⟩
    | missing reason => exact .missing reason

/-- **Every search through related sources finds related things.** -/
theorem search_alike {ls ls' : List (Lookup Miss Metadata)}
    (h : List.Forall₂ (Lookup.Alike (Metadata.Alike l.payload)) ls ls') (facet : Facet) :
    ReplyAlike (Option.Rel (Metadata.Alike l.payload)) (facet.search ls) (facet.search ls') := by
  induction h with
  | nil => exact .answer .none
  | @cons a b ls ls' hab _ ih =>
    cases hab with
    | found hmn =>
      rename_i m n
      cases hin : facet.isIn m with
      | true =>
        have hin' : facet.isIn n = true := (isIn_eq hmn facet).symm.trans hin
        rw [Facet.search_cons_of_isIn hin, Facet.search_cons_of_isIn hin']
        exact .answer (.some hmn)
      | false =>
        -- A hit that lacks the facet is passed over on both sides.
        have hin' : facet.isIn n = false := (isIn_eq hmn facet).symm.trans hin
        rw [Facet.search_cons_of_not_isIn (l := .found m) hin,
          Facet.search_cons_of_not_isIn (l := .found n) hin']
        exact ih
    | missing reason =>
      rw [Facet.search_cons_of_not_isIn rfl, Facet.search_cons_of_not_isIn rfl]
      show ReplyAlike _ (if reason.numbers.all _ then _ else _) (if reason.numbers.all _ then _ else _)
      split
      · exact ih
      · exact .halt _

/-! ## Projections -/

theorem Alike.projectedBucket_alike (h : l.Alike s s') (test : String) (e : Int) :
    (s.projectedBucket test e).Alike l.payload (s'.projectedBucket test e) := by
  have hactive := h.activeBucket_alike test (some e)
  unfold Snapshot.projectedBucket
  generalize s.activeBucket test (some e) = a at hactive ⊢
  generalize s'.activeBucket test (some e) = b at hactive ⊢
  cases hactive with
  | found hbc => exact hbc
  | missing reason => exact Bucket.alike_bare e

/-- **Projections of related snapshots are related.** -/
theorem Alike.projected_alike (h : l.Alike s s') (values : String → Option Int) :
    l.Alike (s.projected values) (s'.projected values) where
  matrixVersion := h.matrixVersion
  buckets := by
    intro test
    rw [Snapshot.get?_projected, Snapshot.get?_projected]
    refine rel_map (h.buckets test) fun b c hbc => ?_
    rw [hbc.value]
    exact h.projectedBucket_alike test _
  allocations := h.allocations
  definitions := h.definitions

/-! ## Entries -/

theorem Alike.entry?_eq (h : l.Alike s s') (form : EntryForm) (test : String) :
    s.entry? form test = s'.entry? form test := by
  funext value
  have hallocation := h.allocations test
  unfold Snapshot.entry?
  cases form with
  | plain => rfl
  | allocated =>
    dsimp only
    generalize s.allocations.get? test = a at hallocation ⊢
    generalize s'.allocations.get? test = b at hallocation ⊢
    cases hallocation with
    | none => rfl
    | some hab => simp only [l.id_eq hab]

end Likeness

/-! ## Snapshots with hooks -/

/-- **Snapshots with hooks that no query tells apart.** Buckets, payloads and projections are
related, a payload of the fallback is the same; texts and values are the same; names and entries
that come in the order of the snapshot are the same up to this order. -/
structure Groups.Indistinguishable (l : Likeness) (g g' : Groups) : Prop where
  value : ∀ test default, g'.run (.value test default) = g.run (.value test default)
  isActive : ∀ test value default,
    g'.run (.isActive test value default) = g.run (.isActive test value default)
  bucket : ∀ test, ReplyAlike (Option.Rel (Bucket.Alike l.payload))
    (g.reply (.bucket g.snapshot test)) (g'.reply (.bucket g'.snapshot test))
  payload : ∀ test fallback, ReplyAlike (fun p q => p = q ∨ l.payload p q)
    (g.reply (.payload g.snapshot test fallback)) (g'.reply (.payload g'.snapshot test fallback))
  description : ∀ test fallback, g'.reply (.description g'.snapshot test fallback) =
    g.reply (.description g.snapshot test fallback)
  loggedNames : ∃ names names', g.reply (.loggedNames g.snapshot) = .ok names ∧
    g'.reply (.loggedNames g'.snapshot) = .ok names' ∧ names.Perm names'
  append : ∀ form separator names buffer,
    g'.reply (.append g'.snapshot form separator names buffer) =
      g.reply (.append g.snapshot form separator names buffer)
  allEntries : (∃ entries entries', entries.Perm entries' ∧ ∀ separator,
      g.reply (.allEntries g.snapshot separator) = .ok (separator.intercalate entries) ∧
        g'.reply (.allEntries g'.snapshot separator) = .ok (separator.intercalate entries')) ∨
    ∀ separator, g.reply (.allEntries g.snapshot separator) = .error .excess ∧
      g'.reply (.allEntries g'.snapshot separator) = .error .excess
  loggingString : g'.reply (.loggingString g'.snapshot) = g.reply (.loggingString g.snapshot)
  longString : g'.reply (.longString g'.snapshot) = g.reply (.longString g.snapshot)
  configuration : ∃ values values', g.reply (.configuration g.snapshot) = .ok values ∧
    g'.reply (.configuration g'.snapshot) = .ok values' ∧ values.Alike Eq values'
  projection : ∃ p log p' log', g.projection = .ok ⟨p, log⟩ ∧ g'.projection = .ok ⟨p', log'⟩ ∧
    l.Alike p p'

namespace Override

variable {l : Likeness} {s s' : Snapshot} {plan? : Option (Plan Override)}

section Alike

variable (h : (presentHoldouts s (rules plan?)).Subsingleton) (hs : l.Alike s s')

include hs

theorem run_eq_of_alike {α : Type} (q : Query α) :
    (groups s' plan?).run q = (groups s plan?).run q := by
  rw [Groups.run, Groups.run, hs.effective_eq]

theorem loggedEntry_eq_of_alike (form : EntryForm) :
    (groups s' plan?).loggedEntry form = (groups s plan?).loggedEntry form := by
  funext test
  have hvalues : (groups s' plan?).valueOf = (groups s plan?).valueOf := hs.valueOf_eq.symm
  rw [Groups.loggedEntry, Groups.loggedEntry, hvalues]
  show _ = Option.bind _ (s.entry? form test)
  rw [hs.entry?_eq form test]
  rfl

theorem isLogged_eq_of_alike :
    (groups s' plan?).isLogged = (groups s plan?).isLogged := by
  funext test
  rw [Groups.isLogged, Groups.isLogged, hs.valueOf_eq]

theorem isLoggable_eq_of_alike {names names' : List String} (hnames : names.Perm names') :
    (groups s' plan?).isLoggable names' = (groups s plan?).isLoggable names := by
  have hvalues : (groups s' plan?).isLoggable names' = (groups s plan?).isLoggable names' :=
    Groups.isLoggable_congr fun test _ => by rw [hs.valueOf_eq]
  rw [hvalues]
  exact hnames.symm.all_eq

include h

theorem reply_metadata_of_alike (facet : Facet) (test : String) (fallback : Option Metadata) :
    ReplyAlike (Option.Rel (Metadata.Alike l.payload))
      ((groups s plan?).reply (.metadata s facet test fallback))
      ((groups s' plan?).reply (.metadata s' facet test fallback)) := by
  have hask := (resolves h).reply_ask test
  have hask' : (groups s' plan?).reply (.ask test) = .ok ((groups s plan?).valueOf test) := by
    rw [Groups.reply, run_eq_of_alike hs]
    exact hask
  rw [Groups.reply_metadata hask, Groups.reply_metadata hask']
  exact Likeness.search_alike (hs.sources_alike test _ fallback) facet

theorem reply_bucket_of_alike (test : String) :
    ReplyAlike (Option.Rel (Bucket.Alike l.payload)) ((groups s plan?).reply (.bucket s test))
      ((groups s' plan?).reply (.bucket s' test)) := by
  have hask := (resolves h).reply_ask test
  have hask' : (groups s' plan?).reply (.ask test) = .ok ((groups s plan?).valueOf test) := by
    rw [Groups.reply, run_eq_of_alike hs]
    exact hask
  rw [Groups.reply_bucket hask, Groups.reply_bucket hask']
  have hactive := hs.activeBucket_alike test ((groups s plan?).valueOf test)
  generalize s.activeBucket test _ = a at hactive ⊢
  generalize s'.activeBucket test _ = b at hactive ⊢
  cases hactive with
  | found hbc => exact .answer (.some hbc)
  | missing reason =>
    show ReplyAlike _ (if reason.numbers.all _ then _ else _) (if reason.numbers.all _ then _ else _)
    split
    · exact .answer .none
    · exact .halt _

theorem reply_description_of_alike (test : String) (fallback : Option Metadata) :
    (groups s' plan?).reply (.description s' test fallback) =
      (groups s plan?).reply (.description s test fallback) := by
  have hmetadata := reply_metadata_of_alike h hs .description test fallback
  rw [Query.description, Query.description, Groups.reply_bind_pure, Groups.reply_bind_pure]
  refine (hmetadata.map fun m n hmn => ?_).eq.symm
  cases hmn with
  | none => rfl
  | some hmn => exact hmn.description

theorem reply_payload_of_alike (test : String) (fallback : Option Metadata) :
    ReplyAlike (fun p q => p = q ∨ l.payload p q)
      ((groups s plan?).reply (.payload s test fallback))
      ((groups s' plan?).reply (.payload s' test fallback)) := by
  have hmetadata := reply_metadata_of_alike h hs .payload test fallback
  rw [Query.payload, Query.payload, Groups.reply_bind_pure, Groups.reply_bind_pure]
  refine hmetadata.map fun m n hmn => ?_
  cases hmn with
  | none => exact .inl rfl
  | some hmn => exact hmn.payload

theorem reply_longString_of_alike :
    (groups s' plan?).reply (.longString s') = (groups s plan?).reply (.longString s) := by
  have hlong : (groups s plan?).reply (.longString s) = _ := Groups.reply_longString _
  have hlong' : (groups s' plan?).reply (.longString s') = _ := Groups.reply_longString _
  have hdescribed : ∀ test, (groups s' plan?).reply (.described s' test) =
      (groups s plan?).reply (.described s test) := by
    intro test
    rw [Query.described, Query.described, Groups.reply_bind_pure, Groups.reply_bind_pure,
      reply_description_of_alike h hs]
  have hnames : sortNames s'.buckets.keys = sortNames s.buckets.keys :=
    sortNames_eq_of_perm hs.buckets.perm_keys.symm
  rw [hlong, hlong']
  show (List.mapM (fun test => (groups s' plan?).reply (.described s' test))
    (sortNames s'.buckets.keys)).map _ = _
  rw [hnames, mapM_congr fun test _ => hdescribed test]
  rfl

theorem reply_loggingString_of_alike :
    (groups s' plan?).reply (.loggingString s') = (groups s plan?).reply (.loggingString s) := by
  have h' : (presentHoldouts s' (rules plan?)).Subsingleton := hs.presentHoldouts_eq _ ▸ h
  have hlogging : (groups s plan?).reply (.loggingString s) = _ :=
    Groups.reply_loggingString (resolves h)
  have hlogging' : (groups s' plan?).reply (.loggingString s') = _ :=
    Groups.reply_loggingString (resolves h')
  have hnames : sortNames s'.buckets.keys = sortNames s.buckets.keys :=
    sortNames_eq_of_perm hs.buckets.perm_keys.symm
  have hsegment : ∀ form, (groups s' plan?).segment form = (groups s plan?).segment form := by
    intro form
    funext names
    rw [Groups.segment, Groups.segment, loggedEntry_eq_of_alike hs]
  rw [hlogging, hlogging']
  show (if (groups s' plan?).isLoggable (sortNames s'.buckets.keys) then Except.ok (",".intercalate
    ((groups s' plan?).segment .plain (sortNames s'.buckets.keys) ++
      (groups s' plan?).segment .allocated (sortNames s'.buckets.keys))) else _) = _
  rw [hnames, hsegment, hsegment, isLoggable_eq_of_alike hs (.refl _)]
  rfl

/-- The entries of all logged tests are the same up to the order of the tests. -/
theorem reply_allEntries_of_alike :
    (∃ entries entries', entries.Perm entries' ∧ ∀ separator,
      (groups s plan?).reply (.allEntries s separator) = .ok (separator.intercalate entries) ∧
        (groups s' plan?).reply (.allEntries s' separator) =
          .ok (separator.intercalate entries')) ∨
    ∀ separator, (groups s plan?).reply (.allEntries s separator) = .error .excess ∧
      (groups s' plan?).reply (.allEntries s' separator) = .error .excess := by
  have h' : (presentHoldouts s' (rules plan?)).Subsingleton := hs.presentHoldouts_eq _ ▸ h
  have hall := Groups.reply_allEntries (resolves h)
  have hall' := Groups.reply_allEntries (resolves h')
  have hloggable : (groups s' plan?).isLoggable s'.buckets.keys = _ :=
    isLoggable_eq_of_alike hs hs.buckets.perm_keys
  have hsegment : ∀ form, ((groups s plan?).segment form s.buckets.keys).Perm
      ((groups s' plan?).segment form s'.buckets.keys) := by
    intro form
    rw [Groups.segment, Groups.segment, loggedEntry_eq_of_alike hs]
    exact hs.buckets.perm_keys.filterMap _
  cases hd : (groups s plan?).isLoggable s.buckets.keys with
  | true =>
    refine .inl ⟨_, _, (hsegment .plain).append (hsegment .allocated), fun separator => ?_⟩
    exact ⟨(hall separator).trans (if_pos hd),
      (hall' separator).trans (if_pos (hloggable.trans hd))⟩
  | false =>
    have hd' : (groups s' plan?).isLoggable s'.buckets.keys = false := hloggable.trans hd
    refine .inr fun separator => ⟨(hall separator).trans (if_neg ?_),
      (hall' separator).trans (if_neg ?_)⟩
    · exact Bool.not_eq_true _ ▸ hd
    · exact Bool.not_eq_true _ ▸ hd'

/-- **No query tells related snapshots apart** under rules. -/
theorem indistinguishable : Groups.Indistinguishable l (groups s plan?) (groups s' plan?) := by
  have h' : (presentHoldouts s' (rules plan?)).Subsingleton := hs.presentHoldouts_eq _ ▸ h
  have hlogged : ∀ {t : Snapshot}, (presentHoldouts t (rules plan?)).Subsingleton →
      (groups t plan?).reply (.loggedNames t) =
        .ok (t.buckets.keys.filter (groups t plan?).isLogged) :=
    fun ht => Groups.reply_loggedNames (resolves ht)
  obtain ⟨log, hp⟩ := exists_projection_rules h
  obtain ⟨log', hp'⟩ := exists_projection_rules h'
  constructor
  case value => exact fun test default => run_eq_of_alike hs _
  case isActive => exact fun test value default => run_eq_of_alike hs _
  case bucket => exact reply_bucket_of_alike h hs
  case payload => exact reply_payload_of_alike h hs
  case description => exact reply_description_of_alike h hs
  case loggedNames =>
    refine ⟨_, _, hlogged h, hlogged h', ?_⟩
    rw [isLogged_eq_of_alike hs]
    exact hs.buckets.perm_keys.filter _
  case append =>
    intro form separator names buffer
    -- The entries read the identifiers of the allocations only, so this is the same query.
    have hentry : ∀ test, Query.entry s' form test = Query.entry s form test := fun test => by
      rw [Query.entry, Query.entry, hs.entry?_eq]
    have hquery : Query.append s' form separator names buffer =
        Query.append s form separator names buffer := by
      simp only [Query.append, Query.entries, funext hentry]
    show Groups.reply _ (Query.append s' form separator names buffer) = _
    rw [hquery, Groups.reply, run_eq_of_alike hs]
    rfl
  case allEntries => exact reply_allEntries_of_alike h hs
  case loggingString => exact reply_loggingString_of_alike h hs
  case longString => exact reply_longString_of_alike h hs
  case configuration =>
    refine ⟨_, _, Groups.reply_configuration (resolves h), Groups.reply_configuration (resolves h'),
      fun test => ?_⟩
    rw [Groups.get?_configured, Groups.get?_configured, hs.valueOf_eq]
    cases Option.filter _ _ with
    | none => exact .none
    | some e => exact .some rfl
  case projection =>
    refine ⟨_, log, _, log', hp, hp', ?_⟩
    rw [hs.valueOf_eq]
    exact hs.projected_alike _

end Alike

variable (s plan?)

/-- **Snapshots that are equal by value cannot be told apart**, whatever the rules, if at most one
hold-out test is present: every value, text and configuration is the same, and what is handed out is
equal by value. So the order of tests never shows: snapshots that differ in nothing else hand out the
same things. -/
theorem equality_is_invisible (h : (presentHoldouts s (rules plan?)).Subsingleton) :
    (∀ s', s.sameValue s' = true →
      Groups.Indistinguishable .byValue (groups s plan?) (groups s' plan?) ∧
        ∃ p log p' log', (groups s plan?).projection = .ok ⟨p, log⟩ ∧
          (groups s' plan?).projection = .ok ⟨p', log'⟩ ∧ p.sameValue p' = true) ∧
    ∀ s', s.matrixVersion = s'.matrixVersion →
      s.buckets.entries.Perm s'.buckets.entries →
      s.allocations.entries.Perm s'.allocations.entries →
      s.definitions.entries.Perm s'.definitions.entries →
        Groups.Indistinguishable .identity (groups s plan?) (groups s' plan?) := by
  constructor
  · intro s' hsame
    have hinvisible := indistinguishable h (Likeness.sameValue_iff.1 hsame)
    obtain ⟨p, log, p', log', hp, hp', halike⟩ := hinvisible.projection
    exact ⟨hinvisible, p, log, p', log', hp, hp', Likeness.sameValue_iff.2 halike⟩
  · intro s' hversion hbuckets hallocations hdefinitions
    exact indistinguishable h
      (Likeness.alike_identity hversion hbuckets hallocations hdefinitions)

/-- A bucket with a number in its payload. -/
def counted (n : Json) : Bucket := ⟨"", 1, "", some (.map (.ofList [("n", n)]))⟩

/-- The sample with an integer in a payload. -/
def tallied : Snapshot :=
  { sample with buckets := .ofList [("hold", .bare 1), ("page", counted (.int 1))] }

/-- The same in another order, with a double in the payload. -/
def retallied : Snapshot :=
  { sample with buckets := .ofList [("page", counted (.double (.ofInt 1))), ("hold", .bare 1)] }

/-- The sample in another order. -/
def reversed : Snapshot :=
  { sample with buckets := .ofList [("page", .bare 1), ("hold", .bare 1)] }

/-- Neither the order nor the double shows in a value or in the logging string. -/
theorem equality_is_invisible_tallied :
    (tallied ≠ retallied ∧ tallied.sameValue retallied = true ∧
      (groups retallied (Override.plan (some "hold") 2 .empty)).run (.value "page" 5) =
        (groups tallied (Override.plan (some "hold") 2 .empty)).run (.value "page" 5) ∧
      (groups retallied (Override.plan (some "hold") 2 .empty)).reply (.loggingString retallied) =
        (groups tallied (Override.plan (some "hold") 2 .empty)).reply (.loggingString tallied)) ∧
    sample ≠ reversed ∧
      (groups reversed (Override.plan (some "hold") 1 .empty)).reply (.longString reversed) =
        (groups sample (Override.plan (some "hold") 1 .empty)).reply (.longString sample) := by
  have hsame : tallied.sameValue retallied = true := by decide +kernel
  obtain ⟨hvalue, -⟩ := equality_is_invisible tallied (Override.plan (some "hold") 2 .empty)
    (presentHoldouts_plan _ _ _ _)
  obtain ⟨hinvisible, -⟩ := hvalue retallied hsame
  obtain ⟨-, horder⟩ := equality_is_invisible sample (Override.plan (some "hold") 1 .empty)
    (presentHoldouts_plan _ _ _ _)
  have hreversed := horder reversed rfl (.swap _ _ _) (.refl _) (.refl _)
  exact ⟨⟨by decide +kernel, hsame, hinvisible.value "page" 5, hinvisible.loggingString⟩,
    by decide +kernel, hreversed.longString⟩

end Override

end ExperimentGroups
