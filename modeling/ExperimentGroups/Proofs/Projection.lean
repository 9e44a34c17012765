import ExperimentGroups.Proofs.Reply

/-!
# Projections answer as their hooks

A projection holds the effective values as determined ones, so without a hook it replies to every
inquiry as the snapshot with the hook does. Where the hook chose a value that no bucket describes,
the projection has a bare bucket in its place; such a bucket has neither payload nor description,
and no search for one of them can tell it from a miss.

Why a bucket is missing is written down with its value. A projection therefore fails if the hook
chose a value that is not described by the definition of its test and is too long to be written.

## Main definitions

* `Snapshot.projected`: the snapshot whose buckets carry given effective values
* `Groups.Projectable`: that no effective value without a bucket is too long to be written
* `Facet.search`: the reply of a search for a facet through some sources

## Main results

* `Groups.reply_projection`: the projection carries the effective values
* `Groups.search_projected`: no search can tell the projection from the snapshot with its hook
* `Groups.projection_replies_alike`: the projection replies as the snapshot with its hook
-/

namespace ExperimentGroups

namespace Snapshot

variable (s : Snapshot)

/-! ## The active bucket -/

theorem activeBucket_of_absent {test : String} (h : s.buckets.get? test = none)
    (effective : Option Int) : s.activeBucket test effective = .missing (.absent test) := by
  simp [activeBucket, h]

theorem activeBucket_of_value {test : String} {bucket : Bucket}
    (h : s.buckets.get? test = some bucket) :
    s.activeBucket test (some bucket.value) = .found bucket := by
  simp [activeBucket, h, Lookup.filter, Lookup.orElse]

theorem activeBucket_of_ne {test : String} {bucket : Bucket} {e : Int}
    (h : s.buckets.get? test = some bucket) (hne : bucket.value ≠ e) :
    s.activeBucket test (some e) = s.definitionBucket test e := by
  simp [activeBucket, h, hne, Lookup.filter, Lookup.orElse]

theorem value_of_definitionBucket {test : String} {e : Int} {bucket : Bucket}
    (h : s.definitionBucket test e = .found bucket) : bucket.value = e := by
  unfold definitionBucket at h
  split at h
  · cases h
  · next d _ =>
    cases hb : d.bucket? e with
    | none =>
      rw [hb] at h
      cases h
    | some c =>
      rw [hb] at h
      cases h
      exact Definition.value_of_bucket? hb

theorem value_of_activeBucket {test : String} {e : Int} {bucket : Bucket}
    (h : s.activeBucket test (some e) = .found bucket) : bucket.value = e := by
  cases hb : s.buckets.get? test with
  | none =>
    rw [s.activeBucket_of_absent hb] at h
    cases h
  | some determined =>
    by_cases he : determined.value = e
    · subst he
      rw [s.activeBucket_of_value hb] at h
      cases h
      rfl
    · rw [s.activeBucket_of_ne hb he] at h
      exact s.value_of_definitionBucket h

theorem projectedBucket_of_found {test : String} {e : Int} {bucket : Bucket}
    (h : s.activeBucket test (some e) = .found bucket) : s.projectedBucket test e = bucket := by
  rw [projectedBucket, h]
  rfl

theorem projectedBucket_of_missing {test : String} {e : Int} {reason : Miss}
    (h : s.activeBucket test (some e) = .missing reason) :
    s.projectedBucket test e = .bare e := by
  rw [projectedBucket, h]
  rfl

/-- The bucket that stands for a value has this value. -/
theorem value_projectedBucket (test : String) (e : Int) :
    (s.projectedBucket test e).value = e := by
  cases h : s.activeBucket test (some e) with
  | found bucket =>
    rw [s.projectedBucket_of_found h]
    exact s.value_of_activeBucket h
  | missing reason =>
    rw [s.projectedBucket_of_missing h]
    rfl

theorem projectedBucket_of_value {test : String} {bucket : Bucket}
    (h : s.buckets.get? test = some bucket) : s.projectedBucket test bucket.value = bucket :=
  s.projectedBucket_of_found (s.activeBucket_of_value h)

/-! ## The projected snapshot -/

/-- **The snapshot whose buckets carry given effective values**; a bucket without one stays. -/
def projected (values : String → Option Int) : Snapshot :=
  { s with buckets := s.buckets.map fun test bucket =>
      s.projectedBucket test ((values test).getD bucket.value) }

@[simp] theorem keys_projected (values : String → Option Int) :
    (s.projected values).buckets.keys = s.buckets.keys :=
  Dict.keys_map _ _

theorem get?_projected (values : String → Option Int) (test : String) :
    (s.projected values).buckets.get? test =
      (s.buckets.get? test).map fun bucket =>
        s.projectedBucket test ((values test).getD bucket.value) :=
  Dict.get?_map _ _ _

theorem get?_projected_of_absent {test : String} (h : s.buckets.get? test = none)
    (values : String → Option Int) : (s.projected values).buckets.get? test = none := by
  rw [get?_projected, h, Option.map_none]

theorem get?_projected_of_value {values : String → Option Int} {test : String} {bucket : Bucket}
    {e : Int} (hb : s.buckets.get? test = some bucket) (hv : values test = some e) :
    (s.projected values).buckets.get? test = some (s.projectedBucket test e) := by
  rw [get?_projected, hb, hv]
  rfl

/-- The active bucket of a projection is the one of the snapshot, or a bare one in place of a
miss. -/
theorem activeBucket_projected {values : String → Option Int} {test : String} {e : Int}
    (hv : values test = some e) (ht : test ∈ s.buckets.keys) :
    (s.projected values).activeBucket test (some e) = .found (s.projectedBucket test e) := by
  obtain ⟨bucket, hb⟩ := (s.buckets.mem_keys_iff test).1 ht
  have h := (s.projected values).activeBucket_of_value (s.get?_projected_of_value hb hv)
  rwa [value_projectedBucket] at h

end Snapshot

/-! ## Searches -/

/-- **The reply of a search** for a facet through some sources: the first source that has it, unless
the reason of a miss before it is too long to be written. -/
def Facet.search (facet : Facet) (sources : List (Lookup Miss Metadata)) :
    Except Halt (Option Metadata) :=
  if ((sources.takeWhile fun l => !l.value?.any facet.isIn).flatMap Lookup.numbers).all
      Text.isWithinDigits then
    .ok (Lookup.first (sources.map fun l => l.filter facet.isIn (.lacking facet))).value?
  else .error .excess

/-- A source that has what is asked for ends the search. -/
theorem Facet.search_cons_of_isIn {facet : Facet} {m : Metadata} (h : facet.isIn m = true)
    (ls : List (Lookup Miss Metadata)) : facet.search (.found m :: ls) = .ok (some m) := by
  have hfound : (Lookup.found m : Lookup Miss Metadata).value?.any facet.isIn = true := h
  unfold Facet.search
  rw [List.takeWhile_cons_of_neg (by simp [hfound]), Lookup.value?_first, List.map_cons,
    List.findSome?_cons, Lookup.value?_filter]
  simp [Lookup.value?, Option.filter, h]

theorem Facet.search_cons_of_not_isIn {facet : Facet} {l : Lookup Miss Metadata}
    (h : l.value?.any facet.isIn = false) (ls : List (Lookup Miss Metadata)) :
    facet.search (l :: ls) =
      if l.numbers.all Text.isWithinDigits then facet.search ls else .error .excess := by
  have hf : (l.filter facet.isIn (.lacking facet)).value? = none := by
    rw [Lookup.value?_filter]
    cases hv : l.value? with
    | none => rfl
    | some m =>
      rw [hv] at h
      simpa [Option.filter] using h
  unfold Facet.search
  rw [List.takeWhile_cons_of_pos (by simp [h]), List.flatMap_cons, List.all_append,
    Lookup.value?_first, Lookup.value?_first, List.map_cons, List.findSome?_cons, hf]
  by_cases hn : l.numbers.all Text.isWithinDigits <;> simp [hn]

/-- A bare bucket has neither payload nor description. -/
theorem Facet.search_bare_cons (facet : Facet) (e : Int) (ls : List (Lookup Miss Metadata)) :
    facet.search ((Lookup.found (Bucket.bare e)).map Bucket.metadata :: ls) = facet.search ls := by
  rw [search_cons_of_not_isIn (by cases facet <;> rfl)]
  rfl

theorem Facet.search_missing_cons (facet : Facet) (reason : Miss)
    (ls : List (Lookup Miss Metadata)) :
    facet.search ((Lookup.missing reason).map Bucket.metadata :: ls) =
      if reason.numbers.all Text.isWithinDigits then facet.search ls else .error .excess :=
  search_cons_of_not_isIn rfl ls

namespace Groups

variable {g : Groups}

theorem reply_metadata {test : String} {e : Option Int} (h : g.reply (.ask test) = .ok e)
    (s : Snapshot) (facet : Facet) (fallback : Option Metadata) :
    g.reply (.metadata s facet test fallback) =
      facet.search (s.sources test e fallback) := by
  unfold Query.metadata Facet.search
  simp only [reply_bind, h]
  show (g.reply (Query.write _) >>= _) = _
  rw [reply_write]
  split
  · cases Lookup.first _ <;> rfl
  · rfl

theorem reply_bucket {test : String} {e : Option Int} (h : g.reply (.ask test) = .ok e)
    (s : Snapshot) :
    g.reply (.bucket s test) =
      if (s.activeBucket test e).numbers.all Text.isWithinDigits then
        .ok (s.activeBucket test e).value?
      else .error .excess := by
  unfold Query.bucket
  simp only [reply_bind, h]
  show (g.reply (Query.write _) >>= _) = _
  rw [reply_write]
  split <;> rfl

/-! ## The projection of a snapshot with its hook -/

variable (g) in
/-- **Every effective value that no bucket describes is short enough to be written.** Only the
values that a definition is asked for and does not declare are written. -/
def Projectable : Prop :=
  ∀ test bucket definition e, g.snapshot.buckets.get? test = some bucket →
    g.snapshot.definitions.get? test = some definition → g.valueOf test = some e →
    bucket.value ≠ e → (∀ b ∈ definition.buckets, b.value ≠ e) → Text.isWithinDigits e

theorem numbers_activeBucket {s : Snapshot} {test : String} {bucket : Bucket} {e : Int}
    (hb : s.buckets.get? test = some bucket) :
    (s.activeBucket test (some e)).numbers.all Text.isWithinDigits ↔
      ∀ definition, s.definitions.get? test = some definition → bucket.value ≠ e →
        (∀ b ∈ definition.buckets, b.value ≠ e) → Text.isWithinDigits e := by
  by_cases he : bucket.value = e
  · subst he
    simp [s.activeBucket_of_value hb, Lookup.numbers]
  · rw [s.activeBucket_of_ne hb he, Snapshot.definitionBucket]
    cases hd : s.definitions.get? test with
    | none => simp [Lookup.numbers, Miss.numbers]
    | some definition =>
      cases hf : definition.bucket? e with
      | none =>
        have hn := (definition.bucket?_eq_none_iff e).1 hf
        simpa [hf, he, Lookup.ofOption, Lookup.numbers, Miss.numbers] using Or.inl hn
      | some b =>
        have hdecl := (definition.exists_bucket?_iff e).1 ⟨b, hf⟩
        simp only [hf, Lookup.ofOption, Lookup.numbers, List.all_nil, Option.some.injEq, true_iff]
        rintro _ rfl - hn
        obtain ⟨c, hc, hv⟩ := hdecl
        exact absurd hv (hn c hc)

theorem Resolves.valueOf_of_mem (h : g.Resolves) {test : String}
    (ht : test ∈ g.snapshot.buckets.keys) : ∃ e, g.valueOf test = some e := by
  obtain ⟨bucket, hb⟩ := (g.snapshot.buckets.mem_keys_iff test).1 ht
  obtain ⟨e, -, he⟩ := h.reply_hook hb
  exact ⟨e, he⟩

/-- One entry of the projection. -/
def projectedEntry (g : Groups) (entry : String × Bucket) : Query (String × Bucket) := do
  let effective ← g.hook g.snapshot entry.1 entry.2
  Query.write (g.snapshot.activeBucket entry.1 (some effective)).numbers
  pure (entry.1, g.snapshot.projectedBucket entry.1 effective)

theorem projection_eq (g : Groups) :
    Query.projection g.snapshot g.hook =
      (g.snapshot.buckets.entries.mapM g.projectedEntry >>= fun buckets =>
        pure { g.snapshot with buckets := .ofList buckets }) := rfl

/-- The reason of a missing bucket is written for each entry. -/
theorem reply_projectedEntry (h : g.Resolves) {entry : String × Bucket}
    (hm : entry ∈ g.snapshot.buckets.entries) :
    ∃ e, g.valueOf entry.1 = some e ∧
      g.reply (g.projectedEntry entry) =
        if (g.snapshot.activeBucket entry.1 (some e)).numbers.all Text.isWithinDigits then
          .ok (entry.1, g.snapshot.projectedBucket entry.1 ((g.valueOf entry.1).getD entry.2.value))
        else .error .excess := by
  have hb := (g.snapshot.buckets.mem_entries_iff entry.1 entry.2).1 hm
  obtain ⟨e, hr, hv⟩ := h.reply_hook hb
  refine ⟨e, hv, ?_⟩
  unfold projectedEntry
  simp only [reply_bind, hr, hv, Option.getD_some]
  show (g.reply (Query.write _) >>= _) = _
  rw [reply_write]
  split <;> rfl

/-- **The projection carries the effective values.** -/
theorem reply_projection (h : g.Resolves) (hp : g.Projectable) :
    g.reply (.projection g.snapshot g.hook) = .ok (g.snapshot.projected g.valueOf) := by
  -- Every entry succeeds, and the names do not repeat, so the entries are kept in order.
  have hentries : ∀ entry ∈ g.snapshot.buckets.entries, g.reply (g.projectedEntry entry) =
      .ok (entry.1,
        g.snapshot.projectedBucket entry.1 ((g.valueOf entry.1).getD entry.2.value)) := by
    intro entry hm
    have hb := (g.snapshot.buckets.mem_entries_iff entry.1 entry.2).1 hm
    obtain ⟨e, hv, hr⟩ := reply_projectedEntry h hm
    rw [hr, if_pos ((numbers_activeBucket hb).2 fun d hd => hp _ _ d e hb hd hv)]
  have hdict := Dict.ext_entries
    (Dict.entries_ofList (g.snapshot.projected g.valueOf).buckets.distinct)
  rw [projection_eq, reply_bind, reply_mapM, mapM_eq_ok hentries]
  exact congrArg (fun buckets => Except.ok { g.snapshot with buckets := buckets }) hdict

/-- A value that no bucket describes and that is too long to be written ends the projection. -/
theorem reply_projection_of_not_projectable (h : g.Resolves) (hp : ¬ g.Projectable) :
    g.reply (.projection g.snapshot g.hook) = .error .excess := by
  have herror : g.snapshot.buckets.entries.mapM (fun entry => g.reply (g.projectedEntry entry)) =
      .error .excess := by
    refine mapM_eq_error (fun entry hm => ?_) ?_
    · obtain ⟨e, -, hr⟩ := reply_projectedEntry h hm
      rw [hr]
      split
      · exact .inr ⟨_, rfl⟩
      · exact .inl rfl
    · -- The test whose value is too long fails.
      unfold Projectable at hp
      push Not at hp
      obtain ⟨test, bucket, definition, e, hb, hd, hv, hne, hdecl, hw⟩ := hp
      have hm := (g.snapshot.buckets.mem_entries_iff test bucket).2 hb
      obtain ⟨e', hv', hr⟩ := reply_projectedEntry h hm
      obtain rfl : e = e' := Option.some.inj (hv.symm.trans hv')
      refine ⟨_, hm, ?_⟩
      rw [hr, if_neg]
      exact fun hn => hw ((numbers_activeBucket hb).1 hn definition hd hne hdecl)
  rw [projection_eq, reply_bind, reply_mapM, herror]
  rfl

/-! ## Replies of the projection -/

/-- Without a hook, the determined values are effective. -/
theorem reply_ask_keep (s : Snapshot) (test : String) :
    (⟨s, .keep⟩ : Groups).reply (.ask test) = .ok ((s.buckets.get? test).map Bucket.value) :=
  reply_ask_of_pure s (fun _ bucket => bucket.value) test

theorem reply_ask_projected (h : g.Resolves) (test : String) :
    (⟨g.snapshot.projected g.valueOf, .keep⟩ : Groups).reply (.ask test) =
      g.reply (.ask test) := by
  rw [reply_ask_keep, Snapshot.get?_projected, h.reply_ask]
  cases hb : g.snapshot.buckets.get? test with
  | none => rw [g.valueOf_of_absent hb, Option.map_none, Option.map_none]
  | some bucket =>
    obtain ⟨e, -, he⟩ := h.reply_hook hb
    simp only [he, Option.map_some, Option.getD_some, Snapshot.value_projectedBucket]

/-- **No search can tell the projection from the snapshot with its hook**: a bare bucket has no
facet, as the miss in whose place it stands. -/
theorem search_projected (h : g.Resolves) (hp : g.Projectable) (facet : Facet) (test : String)
    (fallback : Option Metadata) :
    facet.search ((g.snapshot.projected g.valueOf).sources test (g.valueOf test) fallback) =
      facet.search (g.snapshot.sources test (g.valueOf test) fallback) := by
  cases hb : g.snapshot.buckets.get? test with
  | none =>
    have hb' := g.snapshot.get?_projected_of_absent hb g.valueOf
    simp only [Snapshot.sources, Snapshot.activeBucket_of_absent _ hb,
      Snapshot.activeBucket_of_absent _ hb']
    rfl
  | some bucket =>
    obtain ⟨e, he⟩ := h.valueOf_of_mem (Dict.mem_keys_of_get? hb)
    simp only [Snapshot.sources, he,
      g.snapshot.activeBucket_projected he (Dict.mem_keys_of_get? hb)]
    cases ha : g.snapshot.activeBucket test (some e) with
    | found b =>
      rw [g.snapshot.projectedBucket_of_found ha]
      rfl
    | missing reason =>
      -- The bare bucket is skipped as the miss is, whose reason is short enough to be written.
      have hw : reason.numbers.all Text.isWithinDigits := by
        have hn := (numbers_activeBucket (e := e) hb).2 fun d hd => hp _ _ d e hb hd he
        rwa [ha] at hn
      rw [g.snapshot.projectedBucket_of_missing ha, Facet.search_bare_cons,
        Facet.search_missing_cons, if_pos hw]
      rfl

theorem reply_metadata_projected (h : g.Resolves) (hp : g.Projectable) (facet : Facet)
    (test : String) (fallback : Option Metadata) :
    (⟨g.snapshot.projected g.valueOf, .keep⟩ : Groups).reply
        (.metadata (g.snapshot.projected g.valueOf) facet test fallback) =
      g.reply (.metadata g.snapshot facet test fallback) := by
  have ha := h.reply_ask test
  rw [reply_metadata ha, reply_metadata (reply_ask_projected h test ▸ ha),
    search_projected h hp]

theorem reply_payload_projected (h : g.Resolves) (hp : g.Projectable) (test : String)
    (fallback : Option Metadata) :
    (⟨g.snapshot.projected g.valueOf, .keep⟩ : Groups).reply
        (.payload (g.snapshot.projected g.valueOf) test fallback) =
      g.reply (.payload g.snapshot test fallback) := by
  simp only [Query.payload, reply_bind, reply_metadata_projected h hp, reply_pure]

theorem reply_description_projected (h : g.Resolves) (hp : g.Projectable) (test : String)
    (fallback : Option Metadata) :
    (⟨g.snapshot.projected g.valueOf, .keep⟩ : Groups).reply
        (.description (g.snapshot.projected g.valueOf) test fallback) =
      g.reply (.description g.snapshot test fallback) := by
  simp only [Query.description, reply_bind, reply_metadata_projected h hp, reply_pure]

theorem reply_described_projected (h : g.Resolves) (hp : g.Projectable) (test : String) :
    (⟨g.snapshot.projected g.valueOf, .keep⟩ : Groups).reply
        (.described (g.snapshot.projected g.valueOf) test) =
      g.reply (.described g.snapshot test) := by
  simp only [Query.described, reply_bind, reply_description_projected h hp, reply_pure]

theorem reply_requested_projected (h : g.Resolves) (hp : g.Projectable) (test : RequestedTest) :
    (⟨g.snapshot.projected g.valueOf, .keep⟩ : Groups).reply
        (.requested (g.snapshot.projected g.valueOf) test) =
      g.reply (.requested g.snapshot test) := by
  simp only [Query.requested, reply_bind, reply_payload_projected h hp,
    reply_congr (reply_ask_projected h) (Query.value _ _), reply_pure]

theorem reply_inquiry_projected (h : g.Resolves) (hp : g.Projectable) {α : Type}
    (i : Inquiry α) :
    (⟨g.snapshot.projected g.valueOf, .keep⟩ : Groups).reply
        (i.query (g.snapshot.projected g.valueOf)) =
      g.reply (i.query g.snapshot) := by
  have hkeys := g.snapshot.keys_projected g.valueOf
  -- Inquiries that read names and allocations only make the same query on both snapshots.
  have hsame : i.query (g.snapshot.projected g.valueOf) = i.query g.snapshot →
      (⟨g.snapshot.projected g.valueOf, .keep⟩ : Groups).reply
        (i.query (g.snapshot.projected g.valueOf)) = g.reply (i.query g.snapshot) := fun hq => by
    rw [hq, reply_congr (reply_ask_projected h)]
  have hlogged : Query.loggedNames (g.snapshot.projected g.valueOf) =
      Query.loggedNames g.snapshot := by
    simp only [Query.loggedNames, hkeys]
  -- Only payloads and descriptions look into the buckets.
  cases i with
  | isEmpty => exact hsame (by simp [Inquiry.query, Dict.isEmpty, Snapshot.projected, Dict.map])
  | value test default => exact hsame rfl
  | isActive test n default => exact hsame rfl
  | payload test fallback => exact reply_payload_projected h hp test fallback
  | description test fallback => exact reply_description_projected h hp test fallback
  | loggedNames => exact hsame hlogged
  | append form separator names buffer => exact hsame rfl
  | allEntries separator =>
    refine hsame ?_
    simp only [Inquiry.query, Query.allEntries, hlogged]
    rfl
  | loggingString =>
    refine hsame ?_
    simp only [Inquiry.query, Query.loggingString, hlogged]
    rfl
  | longString =>
    simp only [Inquiry.query, Query.longString, reply_bind, reply_mapM, hkeys,
      reply_described_projected h hp, reply_pure]
  | configuration =>
    refine hsame ?_
    simp only [Inquiry.query, Query.configuration, hlogged]
  | requestedConfiguration tests =>
    simp only [Inquiry.query, Query.requestedConfiguration, reply_mapM,
      reply_requested_projected h hp]

/-- The bucket of a test in the projection: a bare one where the hook chose a value that no bucket
describes. -/
theorem reply_bucket_projected (h : g.Resolves) (hp : g.Projectable) (test : String) :
    (⟨g.snapshot.projected g.valueOf, .keep⟩ : Groups).reply
        (.bucket (g.snapshot.projected g.valueOf) test) =
      (g.reply (.bucket g.snapshot test)).map fun b =>
        b.or ((g.valueOf test).map Bucket.bare) := by
  have ha := h.reply_ask test
  rw [reply_bucket ha, reply_bucket (reply_ask_projected h test ▸ ha)]
  cases hb : g.snapshot.buckets.get? test with
  | none =>
    have hb' := g.snapshot.get?_projected_of_absent hb g.valueOf
    rw [Snapshot.activeBucket_of_absent _ hb, Snapshot.activeBucket_of_absent _ hb',
      g.valueOf_of_absent hb]
    rfl
  | some bucket =>
    obtain ⟨e, he⟩ := h.valueOf_of_mem (Dict.mem_keys_of_get? hb)
    have hw := (numbers_activeBucket (e := e) hb).2 fun d hd => hp _ _ d e hb hd he
    rw [he, g.snapshot.activeBucket_projected he (Dict.mem_keys_of_get? hb), if_pos hw]
    cases ha : g.snapshot.activeBucket test (some e) with
    | found b =>
      rw [g.snapshot.projectedBucket_of_found ha]
      rfl
    | missing reason =>
      rw [g.snapshot.projectedBucket_of_missing ha]
      rfl

/-- **The projection replies as the snapshot with its hook** to every inquiry, also where the reply
is that an integer is too long to be written. Only the bucket of a test may differ: where there is
none for the value that the hook chose, the projection has a bare one. There is a projection unless
a value without a bucket is itself too long to be written. -/
theorem projection_replies_alike (g : Groups) (h : g.Resolves) :
    (g.Projectable → ∃ p log, g.projection = .ok ⟨p, log⟩ ∧
      (∀ {α : Type} (i : Inquiry α),
        (⟨p, .keep⟩ : Groups).reply (i.query p) = g.reply (i.query g.snapshot)) ∧
      ∀ test, (⟨p, .keep⟩ : Groups).reply (.bucket p test) =
        (g.reply (.bucket g.snapshot test)).map fun b =>
          b.or ((g.valueOf test).map Bucket.bare)) ∧
    (¬ g.Projectable → g.projection = .error .excess) := by
  refine ⟨fun hp => ?_, fun hp => ?_⟩
  · obtain ⟨log, hr⟩ := run_of_reply (reply_projection h hp)
    exact ⟨_, log, hr, reply_inquiry_projected h hp, reply_bucket_projected h hp⟩
  · exact run_of_reply_error (reply_projection_of_not_projectable h hp)

/-- One test whose definition declares nothing, with a hook that shifts every value. -/
def shifted (value shift : Int) : Groups where
  snapshot := ⟨"", .ofList [("t", .bare value)], .empty,
    .ofList [("t", ⟨"", "", none, none, none, .empty, [], []⟩)]⟩
  hook := fun _ _ bucket => pure (bucket.value + shift)

theorem resolves_shifted (value shift : Int) : (shifted value shift).Resolves :=
  resolves_of_reply fun test => ⟨_, reply_ask_of_pure _ _ test⟩

theorem valueOf_shifted (value shift : Int) :
    (shifted value shift).valueOf "t" = some (value + shift) :=
  valueOf_of_reply (reply_ask_of_pure _ _ "t")

theorem projectable_shifted (value shift : Int) :
    (shifted value shift).Projectable ↔ (shift ≠ 0 → Text.isWithinDigits (value + shift)) := by
  constructor
  · intro hp hs
    exact hp "t" (.bare value) _ _ rfl rfl (valueOf_shifted value shift)
      (by simp only [Bucket.bare]; omega) (by simp)
  · intro h test bucket definition e hb hd he hne hdecl
    by_cases ht : "t" = test
    · subst ht
      obtain rfl : Bucket.bare value = bucket := Option.some.inj hb
      obtain rfl : value + shift = e :=
        Option.some.inj ((valueOf_shifted value shift).symm.trans he)
      exact h fun hs => hne (by simp [Bucket.bare, hs])
    · have hb' : (shifted value shift).snapshot.buckets.get? test = none := if_neg ht
      rw [hb'] at hb
      cases hb

/-- A value that no bucket describes is projected to a bare bucket. -/
theorem projection_replies_alike_shifted :
    (shifted 1 1).Resolves ∧ (shifted 1 1).Projectable ∧
      ∃ p log, (shifted 1 1).projection = .ok ⟨p, log⟩ ∧
        (⟨p, .keep⟩ : Groups).reply (.bucket p "t") = .ok (some (.bare 2)) := by
  have hp : (shifted 1 1).Projectable := (projectable_shifted 1 1).2 fun _ => by decide +kernel
  obtain ⟨p, log, hr, -, hbucket⟩ :=
    (projection_replies_alike (shifted 1 1) (resolves_shifted 1 1)).1 hp
  refine ⟨resolves_shifted 1 1, hp, p, log, hr, ?_⟩
  rw [hbucket, reply_bucket ((resolves_shifted 1 1).reply_ask "t"), valueOf_shifted]
  decide +kernel

/-- A hook may choose a value that no bucket describes and that is too long to be written; there is
no projection then. -/
theorem not_projection_shifted :
    (shifted (1 - Nat.pow 10 Text.digitLimit) (-1)).Resolves ∧
      (shifted (1 - Nat.pow 10 Text.digitLimit) (-1)).projection = .error .excess := by
  refine ⟨resolves_shifted _ _, run_of_reply_error ?_⟩
  refine reply_projection_of_not_projectable (resolves_shifted _ _) fun hp => ?_
  have hw := (projectable_shifted _ _).1 hp (by decide)
  exact absurd hw (by decide +kernel)

end Groups

end ExperimentGroups
