import ExperimentGroups.Proofs.Projection

/-!
# Candidates for the metadata of a test

What the three sources of a test come to is a list of at most three candidates, written down here
without lookups: the carrier of the effective value, the declared bucket with the value of the
fallback, and the fallback itself. The payload and the description of the test are each the first
one among the candidates that is not empty, and they may come from different candidates.

The reason why a source is passed over is written at once, also where nobody reads it. So there is
no reply if an integer in a reason before the hit has too many digits, and a reply in all other
cases.

## Main definitions

* `Fallback`: what may be handed in as a fallback
* `Snapshot.carrier?`, `Snapshot.candidates`: the candidates, in order
* `firstPayload`, `firstDescription`: the first ones that are not empty
* `Snapshot.Explicable`: that every reason before the hit can be written
* `Groups.Refers`: that the replies are those of the candidates

## Main results

* `Snapshot.filterMap_sources`: what the sources found are the candidates
* `Snapshot.explicable_iff`: the reasons that are written
* `Groups.metadata_resolution`: the replies are those of the candidates
-/

namespace ExperimentGroups

/-! ## The reference -/

/-- **What may be handed in as a fallback**: anything with a value. It may lack a description, and
there may be something else in the place of its payload. -/
structure Fallback where
  value : Int
  description : Option String
  payload : Option (Payload ⊕ Json)

/-- What a fallback knows; only a payload counts as one. -/
def Fallback.metadata (f : Fallback) : Metadata :=
  ⟨f.value, f.description.getD "", (f.payload.bind Sum.getLeft?).getD .empty⟩

namespace Snapshot

variable (s : Snapshot) (test : String)

/-- The first declared bucket of a test with a value. -/
def declared? (value : Int) : Option Bucket :=
  (s.definitions.get? test).bind fun definition => definition.bucket? value

/-- **The carrier of the effective value**: the determined bucket of a present test if it has this
value, and otherwise the first declared one. -/
def carrier? (effective : Option Int) : Option Bucket := do
  let determined ← s.buckets.get? test
  let e ← effective
  if determined.value = e then some determined else s.declared? test e

/-- The declared bucket with the value of the fallback. -/
def declaredFallback? (fallback : Option Fallback) : Option Bucket :=
  fallback.bind fun f => s.declared? test f.value

/-- The fallback, if the test is absent or has its value. -/
def eligible? (effective : Option Int) (fallback : Option Fallback) : Option Fallback :=
  fallback.filter fun f => decide (s.buckets.get? test = none ∨ effective = some f.value)

/-- **The candidates**, in order. -/
def candidates (effective : Option Int) (fallback : Option Fallback) : List Metadata :=
  [(s.carrier? test effective).map Bucket.metadata,
    (s.declaredFallback? test fallback).map Bucket.metadata,
    (s.eligible? test effective fallback).map Fallback.metadata].filterMap id

end Snapshot

/-- The first payload that is not empty. -/
def firstPayload (candidates : List Metadata) : Payload :=
  ((candidates.map Metadata.payload).find? (· ≠ .empty)).getD .empty

/-- The first description that is not empty. -/
def firstDescription (candidates : List Metadata) : String :=
  ((candidates.map Metadata.description).find? (· ≠ "")).getD ""

/-! ## Reasons -/

namespace Snapshot

variable (s : Snapshot) (test : String)

/-- The test has a definition, and no bucket of it has the value. -/
def Undeclared (value : Int) : Prop :=
  ∃ definition, s.definitions.get? test = some definition ∧
    ∀ bucket ∈ definition.buckets, bucket.value ≠ value

/-- **Every reason before the hit can be written.** -/
structure Explicable (facet : Facet) (effective : Option Int) (fallback : Option Fallback) :
    Prop where
  /-- The hook chose a value that is not declared. -/
  carrier : ∀ determined e, s.buckets.get? test = some determined → effective = some e →
    determined.value ≠ e → s.Undeclared test e → Text.isWithinDigits e = true
  /-- The carrier lacks what is asked for, and the value of the fallback is not declared. -/
  declared : ∀ f, fallback = some f →
    ((s.carrier? test effective).map Bucket.metadata).any facet.isIn = false →
    s.Undeclared test f.value → Text.isWithinDigits f.value = true
  /-- Both lack it, and the fallback has another value. -/
  itself : ∀ f e, fallback = some f → effective = some e → f.value ≠ e →
    ((s.carrier? test effective).map Bucket.metadata).any facet.isIn = false →
    ((s.declaredFallback? test fallback).map Bucket.metadata).any facet.isIn = false →
    Text.isWithinDigits f.value = true ∧ Text.isWithinDigits e = true

variable {s test}

theorem value?_definitionBucket (value : Int) :
    (s.definitionBucket test value).value? = s.declared? test value := by
  rw [definitionBucket, declared?]
  cases s.definitions.get? test with
  | none => rfl
  | some definition =>
    show (Lookup.ofOption _ _).value? = definition.bucket? value
    cases definition.bucket? value <;> rfl

theorem numbers_definitionBucket (value : Int) :
    (s.definitionBucket test value).numbers.all Text.isWithinDigits = true ↔
      (s.Undeclared test value → Text.isWithinDigits value = true) := by
  rw [definitionBucket, Undeclared]
  cases s.definitions.get? test with
  | none => simp [Lookup.numbers, Miss.numbers]
  | some definition =>
    show (Lookup.ofOption (.undeclared test value) (definition.bucket? value)).numbers.all _ = _ ↔ _
    simp only [Option.some.injEq, exists_eq_left', ← definition.bucket?_eq_none_iff]
    cases definition.bucket? value <;> simp [Lookup.ofOption, Lookup.numbers, Miss.numbers]

/-- What the active bucket is found to be is the carrier. -/
theorem value?_activeBucket (effective : Option Int) :
    (s.activeBucket test effective).value? = s.carrier? test effective := by
  rw [carrier?]
  cases hb : s.buckets.get? test with
  | none =>
    rw [s.activeBucket_of_absent hb]
    rfl
  | some determined =>
    cases effective with
    | none => simp [activeBucket, hb, Lookup.value?]
    | some e =>
      by_cases he : determined.value = e
      · subst he
        simp [s.activeBucket_of_value hb, Lookup.value?]
      · rw [s.activeBucket_of_ne hb he, value?_definitionBucket]
        exact (if_neg he).symm

theorem numbers_carrier (effective : Option Int) :
    (s.activeBucket test effective).numbers.all Text.isWithinDigits = true ↔
      ∀ determined e, s.buckets.get? test = some determined → effective = some e →
        determined.value ≠ e → s.Undeclared test e → Text.isWithinDigits e = true := by
  cases hb : s.buckets.get? test with
  | none =>
    rw [s.activeBucket_of_absent hb]
    simp [Lookup.numbers, Miss.numbers]
  | some determined =>
    cases effective with
    | none => simp [activeBucket, hb, Lookup.numbers, Miss.numbers]
    | some e =>
      by_cases he : determined.value = e
      · subst he
        simp [s.activeBucket_of_value hb, Lookup.numbers]
      · rw [s.activeBucket_of_ne hb he, numbers_definitionBucket]
        simp [he]

theorem value?_fallbackDefinition (fallback : Option Fallback) :
    (s.fallbackDefinition test (fallback.map Fallback.metadata)).value? =
      s.declaredFallback? test fallback := by
  cases fallback with
  | none => rfl
  | some f => exact value?_definitionBucket f.value

theorem numbers_fallbackDefinition (fallback : Option Fallback) :
    (s.fallbackDefinition test (fallback.map Fallback.metadata)).numbers.all
        Text.isWithinDigits = true ↔
      ∀ f, fallback = some f → s.Undeclared test f.value → Text.isWithinDigits f.value = true := by
  cases fallback with
  | none => simp [fallbackDefinition, Lookup.numbers, Miss.numbers]
  | some f =>
    rw [Option.map_some, fallbackDefinition, numbers_definitionBucket]
    simp [Fallback.metadata]

/-- The effective value tells whether the test is present. -/
theorem value?_fallbackItself {effective : Option Int}
    (he : effective = none ↔ s.buckets.get? test = none) (fallback : Option Fallback) :
    (fallbackItself effective (fallback.map Fallback.metadata)).value? =
      (s.eligible? test effective fallback).map Fallback.metadata := by
  cases fallback with
  | none => rfl
  | some f =>
    simp only [eligible?, ← he, Option.map_some, Option.filter_some]
    cases effective with
    | none => simp [fallbackItself, Lookup.value?]
    | some e =>
      by_cases hv : e = f.value
      · subst hv
        simp [fallbackItself, Fallback.metadata, Lookup.value?]
      · simp [fallbackItself, Fallback.metadata, Lookup.value?, hv, Ne.symm hv]

theorem numbers_fallbackItself (effective : Option Int) (fallback : Option Fallback) :
    (fallbackItself effective (fallback.map Fallback.metadata)).numbers.all
        Text.isWithinDigits = true ↔
      ∀ f e, fallback = some f → effective = some e → f.value ≠ e →
        Text.isWithinDigits f.value = true ∧ Text.isWithinDigits e = true := by
  cases fallback with
  | none => simp [fallbackItself, Lookup.numbers, Miss.numbers]
  | some f =>
    cases effective with
    | none => simp [fallbackItself, Lookup.numbers]
    | some e =>
      by_cases hv : f.value = e
      · simp [fallbackItself, Fallback.metadata, Lookup.numbers, hv]
      · simp [fallbackItself, Fallback.metadata, Lookup.numbers, Miss.numbers, hv]

/-- **What the sources found are the candidates.** -/
theorem filterMap_sources {effective : Option Int}
    (he : effective = none ↔ s.buckets.get? test = none) (fallback : Option Fallback) :
    (s.sources test effective (fallback.map Fallback.metadata)).filterMap Lookup.value? =
      s.candidates test effective fallback := by
  have hvalues : ∀ ls : List (Lookup Miss Metadata),
      ls.filterMap Lookup.value? = (ls.map Lookup.value?).filterMap id := by
    intro ls
    rw [List.filterMap_map]
    rfl
  rw [hvalues, sources, List.map_cons, List.map_cons, List.map_cons, List.map_nil,
    Lookup.value?_map, value?_activeBucket, Lookup.value?_map, value?_fallbackDefinition,
    value?_fallbackItself he]
  rfl

end Snapshot

/-! ## Searches -/

namespace Facet

/-- Whether the reasons before the hit can be written. -/
def explains (facet : Facet) (sources : List (Lookup Miss Metadata)) : Bool :=
  ((sources.takeWhile fun l => !l.value?.any facet.isIn).flatMap Lookup.numbers).all
    Text.isWithinDigits

variable {facet : Facet}

/-- A source that has what is asked for gives no reason. -/
theorem explains_cons (l : Lookup Miss Metadata) (ls : List (Lookup Miss Metadata)) :
    facet.explains (l :: ls) = true ↔ l.numbers.all Text.isWithinDigits = true ∧
      (l.value?.any facet.isIn = false → facet.explains ls = true) := by
  rw [explains, explains]
  cases hl : l.value?.any facet.isIn with
  | true =>
    rw [List.takeWhile_cons_of_neg (by simp [hl])]
    cases l with
    | found m => simp [Lookup.numbers]
    | missing reason => cases hl
  | false =>
    rw [List.takeWhile_cons_of_pos (by simp [hl]), List.flatMap_cons, List.all_append]
    simp

/-- **A search finds the first candidate** that has what is asked for. -/
theorem search_eq (sources : List (Lookup Miss Metadata)) :
    facet.search sources =
      if facet.explains sources then .ok ((sources.filterMap Lookup.value?).find? facet.isIn)
      else .error .excess := by
  have hfirst : (Lookup.first (sources.map fun l => l.filter facet.isIn (.lacking facet))).value? =
      (sources.filterMap Lookup.value?).find? facet.isIn := by
    rw [Lookup.value?_first]
    induction sources with
    | nil => rfl
    | cons l ls ih =>
      rw [List.map_cons, List.findSome?_cons, Lookup.value?_filter, List.filterMap_cons, ih]
      cases l.value? with
      | none => rfl
      | some m => by_cases hm : facet.isIn m = true <;> simp [Option.filter, hm]
  rw [search, hfirst, explains]

end Facet

/-- **The reasons that are written** are those before the hit. -/
theorem Snapshot.explicable_iff {s : Snapshot} {test : String} (facet : Facet)
    (effective : Option Int) (fallback : Option Fallback) :
    s.Explicable test facet effective fallback ↔
      facet.explains (s.sources test effective (fallback.map Fallback.metadata)) = true := by
  have hnumbers : ∀ l : Lookup Miss Bucket, (l.map Bucket.metadata).numbers = l.numbers := by
    intro l
    cases l <;> rfl
  rw [sources, Facet.explains_cons, Facet.explains_cons, Facet.explains_cons, hnumbers, hnumbers,
    numbers_carrier, numbers_fallbackDefinition, numbers_fallbackItself, Lookup.value?_map,
    Lookup.value?_map, value?_activeBucket, value?_fallbackDefinition]
  constructor
  · rintro ⟨hcarrier, hdeclared, hitself⟩
    refine ⟨hcarrier, fun hc => ⟨fun f hf => hdeclared f hf hc, fun hd => ⟨?_, fun _ => rfl⟩⟩⟩
    exact fun f e hf he hne => hitself f e hf he hne hc hd
  · rintro ⟨hcarrier, hrest⟩
    constructor
    case carrier => exact hcarrier
    case declared => exact fun f hf hc => (hrest hc).1 f hf
    case itself => exact fun f e hf he hne hc hd => ((hrest hc).2 hd).1 f e hf he hne

/-! ## Replies -/

theorem firstPayload_eq (candidates : List Metadata) :
    firstPayload candidates =
      (candidates.find? Facet.payload.isIn).elim .empty Metadata.payload := by
  have hp : (fun p : Payload => decide (p ≠ .empty)) ∘ Metadata.payload = Facet.payload.isIn := by
    funext m
    show decide (m.payload ≠ .empty) = !m.payload.isEmpty
    cases m.payload <;> rfl
  rw [firstPayload, List.find?_map, hp]
  cases candidates.find? Facet.payload.isIn <;> rfl

theorem firstDescription_eq (candidates : List Metadata) :
    firstDescription candidates =
      (candidates.find? Facet.description.isIn).elim "" Metadata.description := by
  have hd : (fun d : String => decide (d ≠ "")) ∘ Metadata.description =
      Facet.description.isIn := by
    funext m
    show decide (m.description ≠ "") = !m.description.isEmpty
    by_cases h : m.description = "" <;> simp [h]
  rw [firstDescription, List.find?_map, hd]
  cases candidates.find? Facet.description.isIn <;> rfl

namespace Groups

/-- The reply to the query for the payload of a test. -/
def payloadFor (g : Groups) (test : String) (fallback : Option Fallback) : Except Halt Payload :=
  g.reply (.payload g.snapshot test (fallback.map Fallback.metadata))

/-- The reply to the query for the description of a test. -/
def descriptionFor (g : Groups) (test : String) (fallback : Option Fallback) : Except Halt String :=
  g.reply (.description g.snapshot test (fallback.map Fallback.metadata))

/-- **The replies are those of the candidates.** -/
structure Refers (g : Groups) (test : String) (fallback : Option Fallback) : Prop where
  payload : g.snapshot.Explicable test .payload (g.valueOf test) fallback →
    g.payloadFor test fallback =
      .ok (firstPayload (g.snapshot.candidates test (g.valueOf test) fallback))
  description : g.snapshot.Explicable test .description (g.valueOf test) fallback →
    g.descriptionFor test fallback =
      .ok (firstDescription (g.snapshot.candidates test (g.valueOf test) fallback))
  /-- A reason that cannot be written ends the query. -/
  excess_payload : ¬ g.snapshot.Explicable test .payload (g.valueOf test) fallback →
    g.payloadFor test fallback = .error .excess
  excess_description : ¬ g.snapshot.Explicable test .description (g.valueOf test) fallback →
    g.descriptionFor test fallback = .error .excess
  /-- A fallback changes nothing that is found without it. -/
  payload_of_found : ∀ p, g.payloadFor test none = .ok p → p ≠ .empty →
    g.payloadFor test fallback = .ok p
  description_of_found : ∀ d, g.descriptionFor test none = .ok d → d ≠ "" →
    g.descriptionFor test fallback = .ok d
  /-- The hook has no say in an absent test. -/
  absent : test ∉ g.snapshot.buckets.keys → ∀ hook,
    (⟨g.snapshot, hook⟩ : Groups).payloadFor test fallback = g.payloadFor test fallback ∧
    (⟨g.snapshot, hook⟩ : Groups).descriptionFor test fallback = g.descriptionFor test fallback
  /-- A present test with another value uses the value of the fallback only. -/
  ignored : ∀ f other : Fallback, fallback = some f → other.value = f.value →
    test ∈ g.snapshot.buckets.keys → g.valueOf test ≠ some f.value →
    g.payloadFor test (some other) = g.payloadFor test fallback ∧
    g.descriptionFor test (some other) = g.descriptionFor test fallback

variable {g : Groups} {test : String}

theorem payloadFor_eq_map (fallback : Option Fallback) :
    g.payloadFor test fallback =
      (g.reply (.metadata g.snapshot .payload test (fallback.map Fallback.metadata))).map
        fun m? => m?.elim .empty Metadata.payload :=
  g.reply_bind_pure _ _

theorem descriptionFor_eq_map (fallback : Option Fallback) :
    g.descriptionFor test fallback =
      (g.reply (.metadata g.snapshot .description test (fallback.map Fallback.metadata))).map
        fun m? => m?.elim "" Metadata.description :=
  g.reply_bind_pure _ _

theorem Resolves.valueOf_eq_none_iff (h : g.Resolves) :
    g.valueOf test = none ↔ g.snapshot.buckets.get? test = none := by
  refine ⟨fun hv => ?_, g.valueOf_of_absent⟩
  cases hb : g.snapshot.buckets.get? test with
  | none => rfl
  | some bucket =>
    obtain ⟨e, -, he⟩ := h.reply_hook hb
    rw [hv] at he
    cases he

/-- The search for a facet goes through the candidates. -/
theorem Resolves.reply_metadata_eq (h : g.Resolves) (facet : Facet) (fallback : Option Fallback) :
    g.reply (.metadata g.snapshot facet test (fallback.map Fallback.metadata)) =
      if facet.explains
          (g.snapshot.sources test (g.valueOf test) (fallback.map Fallback.metadata)) then
        .ok ((g.snapshot.candidates test (g.valueOf test) fallback).find? facet.isIn)
      else .error .excess := by
  rw [reply_metadata (h.reply_ask test), Facet.search_eq,
    Snapshot.filterMap_sources h.valueOf_eq_none_iff]

/-- The payload is that of the candidates, if every reason before the hit can be written. -/
theorem Resolves.payloadFor_of_explicable (h : g.Resolves) {fallback : Option Fallback}
    (hx : g.snapshot.Explicable test .payload (g.valueOf test) fallback) :
    g.payloadFor test fallback =
      .ok (firstPayload (g.snapshot.candidates test (g.valueOf test) fallback)) := by
  rw [payloadFor_eq_map, h.reply_metadata_eq, if_pos ((Snapshot.explicable_iff ..).1 hx),
    firstPayload_eq]
  rfl

theorem Resolves.payloadFor_of_not_explicable (h : g.Resolves) {fallback : Option Fallback}
    (hx : ¬ g.snapshot.Explicable test .payload (g.valueOf test) fallback) :
    g.payloadFor test fallback = .error .excess := by
  rw [payloadFor_eq_map, h.reply_metadata_eq,
    if_neg fun he => hx ((Snapshot.explicable_iff ..).2 he)]
  rfl

/-- What is found without a fallback is found in the active bucket, before any fallback. -/
theorem Resolves.reply_metadata_of_found (h : g.Resolves) {facet : Facet} {m : Metadata}
    (hm : g.reply (.metadata g.snapshot facet test none) = .ok (some m))
    (fallback : Option Metadata) :
    g.reply (.metadata g.snapshot facet test fallback) = .ok (some m) := by
  rw [reply_metadata (h.reply_ask test), Snapshot.sources] at hm ⊢
  generalize (g.snapshot.activeBucket test (g.valueOf test)).map Bucket.metadata = active at hm ⊢
  cases active with
  | missing reason =>
    rw [Facet.search_cons_of_not_isIn rfl] at hm
    split at hm
    · cases hm
    · cases hm
  | found n =>
    by_cases hn : facet.isIn n = true
    · rw [Facet.search_cons_of_isIn hn] at hm ⊢
      exact hm
    · rw [Facet.search_cons_of_not_isIn (by simpa [Lookup.value?] using hn)] at hm
      cases hm

theorem Resolves.reply_of_found (h : g.Resolves) {facet : Facet} {α : Type} {read : Metadata → α}
    {default a : α}
    (ha : (g.reply (.metadata g.snapshot facet test none)).map (·.elim default read) = .ok a)
    (hne : a ≠ default) (fallback : Option Fallback) :
    (g.reply (.metadata g.snapshot facet test (fallback.map Fallback.metadata))).map
      (·.elim default read) = .ok a := by
  cases hr : g.reply (.metadata g.snapshot facet test none) with
  | error k =>
    rw [hr] at ha
    cases ha
  | ok m? =>
    rw [hr] at ha
    cases m? with
    | none => exact absurd (Except.ok.inj ha).symm hne
    | some m =>
      rw [h.reply_metadata_of_found hr]
      exact ha

/-- Without a bucket, no hook is asked. -/
theorem reply_metadata_of_absent (hb : g.snapshot.buckets.get? test = none) (hook : Hook)
    (facet : Facet) (fallback : Option Metadata) :
    (⟨g.snapshot, hook⟩ : Groups).reply (.metadata g.snapshot facet test fallback) =
      g.reply (.metadata g.snapshot facet test fallback) := by
  rw [reply_metadata (reply_ask_of_absent ⟨g.snapshot, hook⟩ hb),
    reply_metadata (reply_ask_of_absent g hb)]

/-- Two fallbacks of one value are alike to a test that has another value. -/
theorem sources_of_ne (s : Snapshot) {e : Int} {f other : Metadata} (hv : other.value = f.value)
    (hne : e ≠ f.value) :
    s.sources test (some e) (some other) = s.sources test (some e) (some f) := by
  simp only [Snapshot.sources, Snapshot.fallbackDefinition, Snapshot.fallbackItself, hv,
    if_neg (Ne.symm hne)]

/-- **The metadata of a test are those of its candidates**: for every snapshot, every hook under
which the tests have values, every test and every fallback, the payload and the description are
each the first one among the candidates that is not empty, unless a reason before the hit has an
integer of too many digits. -/
theorem metadata_resolution (g : Groups) (h : g.Resolves) (test : String)
    (fallback : Option Fallback) : g.Refers test fallback := by
  constructor
  case payload => exact h.payloadFor_of_explicable
  case description =>
    intro hx
    rw [descriptionFor_eq_map, h.reply_metadata_eq, if_pos ((Snapshot.explicable_iff ..).1 hx),
      firstDescription_eq]
    rfl
  case excess_payload => exact h.payloadFor_of_not_explicable
  case excess_description =>
    intro hx
    rw [descriptionFor_eq_map, h.reply_metadata_eq,
      if_neg fun he => hx ((Snapshot.explicable_iff ..).2 he)]
    rfl
  case payload_of_found =>
    intro p hp hne
    rw [payloadFor_eq_map] at hp ⊢
    exact h.reply_of_found hp hne fallback
  case description_of_found =>
    intro d hd hne
    rw [descriptionFor_eq_map] at hd ⊢
    exact h.reply_of_found hd hne fallback
  case absent =>
    intro ht hook
    have hb := (g.snapshot.buckets.get?_eq_none_iff test).2 ht
    rw [payloadFor_eq_map, payloadFor_eq_map, descriptionFor_eq_map, descriptionFor_eq_map]
    exact ⟨congrArg _ (reply_metadata_of_absent hb hook _ _),
      congrArg _ (reply_metadata_of_absent hb hook _ _)⟩
  case ignored =>
    rintro f other rfl hv ht hne
    obtain ⟨e, he⟩ := h.valueOf_of_mem ht
    have hmetadata : ∀ facet, g.reply (.metadata g.snapshot facet test (some other.metadata)) =
        g.reply (.metadata g.snapshot facet test (some f.metadata)) := by
      intro facet
      rw [reply_metadata (h.reply_ask test), reply_metadata (h.reply_ask test), he]
      refine congrArg facet.search (sources_of_ne _ hv fun heq => hne ?_)
      rw [he, heq]
      rfl
    rw [payloadFor_eq_map, payloadFor_eq_map, descriptionFor_eq_map, descriptionFor_eq_map]
    exact ⟨congrArg _ (hmetadata .payload), congrArg _ (hmetadata .description)⟩

/-- A test whose hook chooses a declared value that has a description and no payload. -/
def described : Groups where
  snapshot := ⟨"", .ofList [("t", .bare 1)], .empty,
    .ofList [("t", ⟨"", "", none, none, none, .empty, [⟨"second", 2, "the second", none⟩], []⟩)]⟩
  hook := fun _ _ _ => pure 2

theorem resolves_described : described.Resolves :=
  resolves_of_reply fun test => ⟨_, reply_ask_of_pure _ _ test⟩

/-- The description is that of the declared bucket, the payload that of the fallback. -/
theorem metadata_resolution_described : described.Resolves ∧
    described.payloadFor "t" (some ⟨2, some "spare", some (.inl (.long 5))⟩) = .ok (.long 5) ∧
    described.descriptionFor "t" (some ⟨2, some "spare", some (.inl (.long 5))⟩) =
      .ok "the second" := by
  have hv : described.valueOf "t" = some 2 := valueOf_of_reply (reply_ask_of_pure _ _ "t")
  have href := metadata_resolution described resolves_described "t"
    (some ⟨2, some "spare", some (.inl (.long 5))⟩)
  refine ⟨resolves_described, ?_, ?_⟩
  · rw [href.payload ((Snapshot.explicable_iff ..).2 (by rw [hv]; decide +kernel)), hv]
    decide +kernel
  · rw [href.description ((Snapshot.explicable_iff ..).2 (by rw [hv]; decide +kernel)), hv]
    decide +kernel

/-- **Not every search without a hit ends empty-handed**: the value that the hook chose is not
declared, no candidate is left, and the reason has a digit too many. -/
theorem not_payload_shifted :
    (shifted (1 - Nat.pow 10 Text.digitLimit) (-1)).Resolves ∧
    firstPayload ((shifted (1 - Nat.pow 10 Text.digitLimit) (-1)).snapshot.candidates "t"
      ((shifted (1 - Nat.pow 10 Text.digitLimit) (-1)).valueOf "t") none) = .empty ∧
    (shifted (1 - Nat.pow 10 Text.digitLimit) (-1)).payloadFor "t" none = .error .excess := by
  have hv := valueOf_shifted (1 - Nat.pow 10 Text.digitLimit) (-1)
  have hr := resolves_shifted (1 - Nat.pow 10 Text.digitLimit) (-1)
  refine ⟨hr, ?_, ?_⟩
  · rw [hv]
    decide +kernel
  · rw [payloadFor_eq_map, reply_metadata (hr.reply_ask "t"), hv]
    decide +kernel

end Groups

end ExperimentGroups
