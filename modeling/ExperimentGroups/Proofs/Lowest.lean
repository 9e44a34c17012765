import ExperimentGroups.Proofs.Candidates
import ExperimentGroups.Proofs.History

/-!
# The lowest bucket

A hold-out only hands on the value of the lowest bucket of a test, and the bucket is looked up again
by this value. Values may repeat, so the search for the smallest value and the search for a given
one have to break ties in the same way: both take the earliest bucket of the list. So what a
hold-out chose is what is found again, wherever a bucket of the test is asked for.

## Main definitions

* `Bucket.Earliest`: the earliest bucket of a list with a property
* `Definition.FindsLowest`: that both searches take the earliest bucket
* `Groups.Uses`: that everything which depends on the bucket of a test uses a given one
* `Override.tied`: a snapshot whose definition declares the lowest value twice

## Main results

* `Definition.bucket?_eq_some_iff`, `Definition.lowest?_eq_some_iff`: what the searches find
* `Definition.bucket?_lowest?`: the lowest bucket is found again by its value
* `Groups.uses_of_activeBucket`: everything uses the active bucket
* `Override.valueOf_of_writes`: what a rule writes is the effective value
* `Override.lowest_is_used`: tests that are held out use their lowest bucket
-/

namespace ExperimentGroups

/-! ## Searches -/

/-- **The earliest bucket of a list with a property.** -/
def Bucket.Earliest (p : Bucket → Prop) (bs : List Bucket) (b : Bucket) : Prop :=
  ∃ before after, bs = before ++ b :: after ∧ p b ∧ ∀ c ∈ before, ¬ p c

/-- A bucket whose value is no larger than any value in a list. -/
def Bucket.IsLowestIn (bs : List Bucket) (b : Bucket) : Prop := ∀ c ∈ bs, b.value ≤ c.value

theorem Bucket.earliest_iff_find? {p : Bucket → Prop} [DecidablePred p] {bs : List Bucket}
    {b : Bucket} : Earliest p bs b ↔ bs.find? (fun c => decide (p c)) = some b := by
  rw [List.find?_eq_some_iff_append, Earliest]
  simp only [decide_eq_true_eq, Bool.not_eq_true', decide_eq_false_iff_not]
  constructor
  · rintro ⟨before, after, hbs, hb, hbefore⟩
    exact ⟨hb, before, after, hbs, hbefore⟩
  · rintro ⟨hb, before, after, hbs, hbefore⟩
    exact ⟨before, after, hbs, hb, hbefore⟩

theorem Bucket.Earliest.unique {p : Bucket → Prop} {bs : List Bucket} {b c : Bucket}
    (hb : Earliest p bs b) (hc : Earliest p bs c) : b = c := by
  classical
  rw [earliest_iff_find?] at hb hc
  exact Option.some.inj (hb.symm.trans hc)

namespace Definition

/-- **A search by value finds the earliest bucket** with this value. -/
theorem bucket?_eq_some_iff (d : Definition) (value : Int) (b : Bucket) :
    d.bucket? value = some b ↔ Bucket.Earliest (·.value = value) d.buckets b := by
  rw [Bucket.earliest_iff_find?]
  rfl

theorem earliest_of_lowestOf {bs : List Bucket} {b : Bucket} (h : lowestOf bs = some b) :
    Bucket.Earliest (Bucket.IsLowestIn bs) bs b := by
  induction bs generalizing b with
  | nil => cases h
  | cons first bs ih =>
    have hle := (lowestOf_mem_le h).2
    rw [lowestOf] at h
    cases hl : lowestOf bs with
    | none =>
      rw [hl, Option.some.injEq] at h
      exact ⟨[], bs, by rw [h]; rfl, hle, by simp⟩
    | some c =>
      rw [hl] at h
      by_cases hlt : c.value < first.value
      · -- A lower one follows, so neither the first bucket nor those before that one are lowest.
        simp only [hlt, if_true, Option.some.injEq] at h
        subst h
        obtain ⟨before, after, hbs, -, hbefore⟩ := ih hl
        refine ⟨first :: before, after, by rw [hbs]; rfl, hle, List.forall_mem_cons.2 ⟨?_, ?_⟩⟩
        · intro hfirst
          have := hfirst c (List.mem_cons_of_mem _ (lowestOf_mem_le hl).1)
          omega
        · exact fun d hd hlowest =>
            hbefore d hd fun e he => hlowest e (List.mem_cons_of_mem _ he)
      · simp only [hlt, if_false, Option.some.injEq] at h
        exact ⟨[], bs, by rw [h]; rfl, hle, by simp⟩

/-- **The search for the smallest value finds the earliest bucket** with this value. -/
theorem lowest?_eq_some_iff (d : Definition) (b : Bucket) :
    d.lowest? = some b ↔ Bucket.Earliest (Bucket.IsLowestIn d.buckets) d.buckets b := by
  -- What is found is an earliest bucket, and there is only one.
  refine ⟨earliest_of_lowestOf, fun h => ?_⟩
  obtain ⟨before, after, hbs, -⟩ := id h
  cases hl : d.lowest? with
  | none =>
    rw [lowest?_eq_none_iff] at hl
    simp [hl] at hbs
  | some c => rw [(earliest_of_lowestOf hl).unique h]

/-- **The lowest bucket is found again by its value.** -/
theorem bucket?_lowest? {d : Definition} {b : Bucket} (h : d.lowest? = some b) :
    d.bucket? b.value = some b := by
  obtain ⟨before, after, hbs, hb, hbefore⟩ := (d.lowest?_eq_some_iff b).1 h
  refine (d.bucket?_eq_some_iff b.value b).2 ⟨before, after, hbs, rfl, fun c hc hvalue => ?_⟩
  exact hbefore c hc fun e he => hvalue ▸ hb e he

/-- **Both searches take the earliest bucket.** -/
structure FindsLowest (d : Definition) : Prop where
  lowest_none : d.lowest? = none ↔ d.buckets = []
  lowest : ∀ b, d.lowest? = some b ↔ Bucket.Earliest (Bucket.IsLowestIn d.buckets) d.buckets b
  le : ∀ b, d.lowest? = some b → ∀ c ∈ d.buckets, b.value ≤ c.value
  found_again : ∀ b, d.lowest? = some b → d.bucket? b.value = some b
  declared : ∀ value, d.bucket? value ≠ none ↔ ∃ b ∈ d.buckets, b.value = value
  found : ∀ value b, d.bucket? value = some b ↔ Bucket.Earliest (·.value = value) d.buckets b

theorem findsLowest (d : Definition) : d.FindsLowest where
  lowest_none := d.lowest?_eq_none_iff
  lowest := d.lowest?_eq_some_iff
  le _ h := (lowest?_mem_le h).2
  found_again _ h := bucket?_lowest? h
  declared value := by rw [Option.ne_none_iff_exists', d.exists_bucket?_iff value]
  found := d.bucket?_eq_some_iff

end Definition

/-! ## The bucket of a test -/

namespace Groups

variable {g : Groups} {test : String} {b : Bucket}

/-- The snapshot with a bucket of a test in place of the determined one, and without a hook. -/
def determining (s : Snapshot) (test : String) (b : Bucket) : Groups :=
  ⟨{ s with buckets := s.buckets.insert test b }, .keep⟩

/-- **Everything that depends on the bucket of a test uses a given one**: without a fallback the
payload and the description are those of the bucket, and with one they are what they would be if
the bucket were the determined one. -/
structure Uses (g : Groups) (test : String) (b : Bucket) : Prop where
  active : g.reply (.bucket g.snapshot test) = .ok (some b)
  payload : g.payloadFor test none = .ok b.payloadOrEmpty
  description : g.descriptionFor test none = .ok b.description
  payload_with : ∀ fallback, g.payloadFor test fallback =
    (determining g.snapshot test b).payloadFor test fallback
  description_with : ∀ fallback, g.descriptionFor test fallback =
    (determining g.snapshot test b).descriptionFor test fallback
  /-- A payload of the bucket comes before any fallback, and so does a description. -/
  payload_first : b.payloadOrEmpty ≠ .empty → ∀ fallback,
    g.payloadFor test fallback = .ok b.payloadOrEmpty
  description_first : b.description ≠ "" → ∀ fallback,
    g.descriptionFor test fallback = .ok b.description
  projection : ∀ t, g.projection = .ok t → t.value.buckets.get? test = some b

theorem reply_ask_determining (s : Snapshot) (test : String) (b : Bucket) :
    (determining s test b).reply (.ask test) = .ok (some b.value) := by
  rw [determining, reply_ask_keep, Dict.get?_insert, if_pos rfl, Option.map_some]

theorem activeBucket_determining (s : Snapshot) (test : String) (b : Bucket) :
    (determining s test b).snapshot.activeBucket test (some b.value) = .found b :=
  Snapshot.activeBucket_of_value _ (by rw [determining, Dict.get?_insert, if_pos rfl])

/-- The sources are those of the bucket itself. -/
theorem sources_determining {s : Snapshot} (h : s.activeBucket test (some b.value) = .found b)
    (fallback : Option Metadata) :
    s.sources test (some b.value) fallback =
      (determining s test b).snapshot.sources test (some b.value) fallback := by
  rw [Snapshot.sources, Snapshot.sources, h, activeBucket_determining]
  rfl

/-- A search ends at the active bucket if this has what is asked for. -/
theorem search_active {s : Snapshot} (h : s.activeBucket test (some b.value) = .found b)
    {facet : Facet} (hin : facet.isIn b.metadata = true) (fallback : Option Metadata) :
    facet.search (s.sources test (some b.value) fallback) = .ok (some b.metadata) := by
  rw [Snapshot.sources, h]
  exact Facet.search_cons_of_isIn hin _

/-- Without a fallback there is nothing but the active bucket. -/
theorem search_without_fallback {s : Snapshot}
    (h : s.activeBucket test (some b.value) = .found b) {facet : Facet}
    (hin : facet.isIn b.metadata = false) :
    facet.search (s.sources test (some b.value) none) = .ok none := by
  have hsources : s.sources test (some b.value) none =
      [.found b.metadata, .missing .noFallback, .missing .noFallback] := by
    rw [Snapshot.sources, h]
    rfl
  have hactive : (Lookup.found b.metadata : Lookup Miss Metadata).value?.any facet.isIn = false :=
    hin
  rw [hsources, Facet.search_cons_of_not_isIn hactive]
  rfl

/-- **Everything uses the active bucket** of a test with a value. -/
theorem uses_of_activeBucket {determined : Bucket}
    (hb : g.snapshot.buckets.get? test = some determined)
    (hask : g.reply (.ask test) = .ok (some b.value))
    (hactive : g.snapshot.activeBucket test (some b.value) = .found b) : g.Uses test b := by
  -- The active bucket is the first source of both facets.
  have hmetadata : ∀ facet fallback, g.reply (.metadata g.snapshot facet test fallback) =
      facet.search (g.snapshot.sources test (some b.value) fallback) :=
    fun facet fallback => reply_metadata hask _ facet fallback
  have hsame : ∀ facet fallback, g.reply (.metadata g.snapshot facet test fallback) =
      (determining g.snapshot test b).reply
        (.metadata (determining g.snapshot test b).snapshot facet test fallback) := by
    intro facet fallback
    rw [hmetadata, sources_determining hactive,
      reply_metadata (reply_ask_determining g.snapshot test b)]
  have hpayload : b.payloadOrEmpty ≠ .empty → ∀ fallback,
      g.payloadFor test fallback = .ok b.payloadOrEmpty := by
    intro hne fallback
    have hin : Facet.payload.isIn b.metadata = true := by
      show (!b.payloadOrEmpty.isEmpty) = true
      cases hpayload : b.payloadOrEmpty <;> simp_all [Payload.isEmpty]
    rw [payloadFor_eq_map, hmetadata, search_active hactive hin]
    rfl
  have hdescription : b.description ≠ "" → ∀ fallback,
      g.descriptionFor test fallback = .ok b.description := by
    intro hne fallback
    have hin : Facet.description.isIn b.metadata = true := by
      show (!b.description.isEmpty) = true
      simpa using hne
    rw [descriptionFor_eq_map, hmetadata, search_active hactive hin]
    rfl
  constructor
  case active =>
    rw [reply_bucket hask, hactive]
    rfl
  case payload =>
    by_cases hne : b.payloadOrEmpty = .empty
    · have hin : Facet.payload.isIn b.metadata = false := by
        show (!b.payloadOrEmpty.isEmpty) = false
        rw [hne]
        rfl
      rw [payloadFor_eq_map, Option.map_none, hmetadata, search_without_fallback hactive hin, hne]
      rfl
    · exact hpayload hne none
  case description =>
    by_cases hne : b.description = ""
    · have hin : Facet.description.isIn b.metadata = false := by
        show (!b.description.isEmpty) = false
        rw [hne]
        rfl
      rw [descriptionFor_eq_map, Option.map_none, hmetadata, search_without_fallback hactive hin,
        hne]
      rfl
    · exact hdescription hne none
  case payload_with =>
    intro fallback
    rw [payloadFor_eq_map, payloadFor_eq_map]
    exact congrArg _ (hsame .payload _)
  case description_with =>
    intro fallback
    rw [descriptionFor_eq_map, descriptionFor_eq_map]
    exact congrArg _ (hsame .description _)
  case payload_first => exact hpayload
  case description_first => exact hdescription
  case projection =>
    intro t ht
    rw [value_of_projection ht, g.snapshot.get?_projected_of_value hb (valueOf_of_reply hask),
      g.snapshot.projectedBucket_of_found hactive]

/-- A declared bucket that is found by its value is active, if another value was determined. -/
theorem activeBucket_of_declared {s : Snapshot} {determined : Bucket} {definition : Definition}
    (hb : s.buckets.get? test = some determined)
    (hdefinition : s.definitions.get? test = some definition)
    (hfound : definition.bucket? b.value = some b) (hne : determined.value ≠ b.value) :
    s.activeBucket test (some b.value) = .found b := by
  rw [s.activeBucket_of_ne hb hne, Snapshot.definitionBucket, hdefinition]
  show Lookup.ofOption _ (definition.bucket? b.value) = _
  rw [hfound]
  rfl

/-- **Everything uses the lowest bucket** of a test that has its value and was determined
otherwise. -/
theorem uses_of_lowest? {determined : Bucket} {definition : Definition}
    (hb : g.snapshot.buckets.get? test = some determined)
    (hdefinition : g.snapshot.definitions.get? test = some definition)
    (hlow : definition.lowest? = some b) (hask : g.reply (.ask test) = .ok (some b.value))
    (hchanged : b.value ≠ determined.value) : g.Uses test b :=
  uses_of_activeBucket hb hask (activeBucket_of_declared hb hdefinition
    (Definition.bucket?_lowest? hlow) hchanged.symm)

end Groups

/-! ## Tests that are held out -/

namespace Override

/-- A present test has an effective value only if at most one hold-out test is present. -/
theorem subsingleton_of_valueOf {s : Snapshot} {plan? : Option (Plan Override)} {test : String}
    {v : Int} (h : (groups s plan?).valueOf test = some v) :
    (presentHoldouts s (rules plan?)).Subsingleton := by
  by_contra hunending
  have hkey : test ∈ s.buckets.keys := by
    by_contra habsent
    rw [(groups s plan?).valueOf_of_absent ((s.buckets.get?_eq_none_iff test).2 habsent)] at h
    cases h
  have heffective : (groups s plan?).effective test = .error .unending :=
    effectiveWithin_unending hunending s.buckets.size hkey
  rw [Groups.valueOf, heffective] at h
  cases h

/-- What one rule writes is the effective value, if no later rule writes another value. -/
theorem valueOf_of_writes {s : Snapshot} {plan? : Option (Plan Override)} {test : String}
    {determined : Bucket} {before after : List Override} {rule : Override} {v : Int}
    (h : (presentHoldouts s (rules plan?)).Subsingleton)
    (hb : s.buckets.get? test = some determined) (hrules : rules plan? = before ++ rule :: after)
    (hwrites : Writes s (groups s plan?).valueOf test rule v)
    (hafter : ∀ later ∈ after, ∀ w, Writes s (groups s plan?).valueOf test later w → w = v) :
    (groups s plan?).valueOf test = some v := by
  rw [valueOf_eq h hb, hrules]
  cases hw : written? s (groups s plan?).valueOf test after with
  | none =>
    rw [written?_append_cons_of_none _ _ _ hw before ((writes_iff ..).1 hwrites), Option.getD_some]
  | some w =>
    -- The last rule that writes is a later one, and it writes the same value.
    obtain ⟨between, last, rest, rfl, hlast, hrest⟩ := exists_last_of_written? _ _ _ hw
    obtain rfl := hafter last (by simp) w ((writes_iff ..).2 hlast)
    have hsplit : before ++ rule :: (between ++ last :: rest) =
        (before ++ rule :: between) ++ last :: rest := by simp
    rw [hsplit, written?_append_cons_of_none _ _ _ hrest _ hlast, Option.getD_some]

/-- **Tests that are held out use their lowest bucket.** In every definition the search for the
smallest value and the search for a given one take the earliest bucket, so the lowest bucket is
found again by its value. So whatever hook gives a test this value, if another one was determined,
then the active bucket, the payload, the description and the projection are those of the lowest
bucket. Such a hook is that of a hold-out which is active for the test, if no later rule writes
another value. If the hold-out does not change the value, they are those of the determined
bucket. -/
theorem lowest_is_used :
    (∀ definition : Definition, definition.FindsLowest) ∧
    (∀ (g : Groups) test determined definition low,
      g.snapshot.buckets.get? test = some determined →
      g.snapshot.definitions.get? test = some definition → definition.lowest? = some low →
      g.reply (.ask test) = .ok (some low.value) → low.value ≠ determined.value →
        g.Uses test low) ∧
    ∀ (s : Snapshot) (plan? : Option (Plan Override)) before holdoutTest value after test determined
        definition low,
      rules plan? = before ++ .holdout holdoutTest value :: after →
      s.buckets.get? test = some determined → s.definitions.get? test = some definition →
      definition.lowest? = some low → test ≠ holdoutTest →
      (groups s plan?).valueOf holdoutTest = some value →
      (∀ later ∈ after, ∀ v, Writes s (groups s plan?).valueOf test later v → v = low.value) →
        (groups s plan?).reply (.ask test) = .ok (some low.value) ∧
        (low.value ≠ determined.value → (groups s plan?).Uses test low) ∧
        (low.value = determined.value → (groups s plan?).Uses test determined) ∧
        ∃ t, (groups s plan?).projection = .ok t := by
  refine ⟨Definition.findsLowest, ?_, ?_⟩
  · intro g test determined definition low hb hdefinition hlow hask hchanged
    exact Groups.uses_of_lowest? hb hdefinition hlow hask hchanged
  · intro s plan? before holdoutTest value after test determined definition low hrules hb
      hdefinition hlow hne hholdout hafter
    -- A second hold-out test in the snapshot would leave the first one without a value.
    have h := subsingleton_of_valueOf hholdout
    have hleast := (definition.lowest?_value_iff low.value).1 (by rw [hlow, Option.map_some])
    have hvalue : (groups s plan?).valueOf test = some low.value :=
      valueOf_of_writes h hb hrules (.holdout hne hholdout hdefinition hleast) hafter
    have hask : (groups s plan?).reply (.ask test) = .ok (some low.value) :=
      hvalue ▸ (resolves h).reply_ask test
    refine ⟨hask, fun hchanged => ?_, fun hkept => ?_, ?_⟩
    · exact Groups.uses_of_lowest? hb hdefinition hlow hask hchanged
    · exact Groups.uses_of_activeBucket hb (hkept ▸ hask) (Snapshot.activeBucket_of_value _ hb)
    · exact Groups.exists_projection_iff.2 ⟨resolves h, projectable h⟩

/-! ## Two lowest buckets -/

/-- The earlier of two lowest buckets. -/
def earlierLow : Bucket := ⟨"control", 0, "as before", some (.long 5)⟩

/-- A hold-out test, and a test whose definition declares its lowest value twice. -/
def tied : Snapshot :=
  ⟨"", .ofList [("hold", .bare 1), ("page", .bare 1)], .empty,
    .ofList [("page", ⟨"", "", none, none, none, .empty,
      [.bare 1, earlierLow, ⟨"retired", 0, "unused", none⟩], []⟩)]⟩

/-- Of two lowest buckets, the earlier one is used everywhere. -/
theorem lowest_is_used_tied :
    (groups tied (Override.plan (some "hold") 1 .empty)).Uses "page" earlierLow := by
  have hhold : (groups tied (Override.plan (some "hold") 1 .empty)).valueOf "hold" = some 1 := by
    rw [valueOf_eq (presentHoldouts_plan tied (some "hold") 1 .empty) rfl]
    rfl
  obtain ⟨-, -, huses⟩ := lowest_is_used
  obtain ⟨-, hchanged, -⟩ := huses tied (Override.plan (some "hold") 1 .empty) [] "hold" 1 []
    "page" (.bare 1) _ earlierLow rfl rfl rfl (by decide) (by decide) hhold (by simp)
  exact hchanged (by decide)

end Override

end ExperimentGroups
