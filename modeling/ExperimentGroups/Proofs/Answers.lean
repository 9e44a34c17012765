import ExperimentGroups.Proofs.Printing
import ExperimentGroups.Service.Reply

/-!
# Every request is answered

A request that was read can be resolved: the rules of a hold-out and pins come to an end, no integer
in it is too long to be written, and what is not finite is written as a null. The resolution is the
reply unless it cannot be written: some free-form value nests too deeply, or some text holds a lone
surrogate. Then the request is a bad one, and in no case does the service fail.

## Main definitions

* `Content.Carries`: that a message carries a value
* `Request.ResolvesTo`: that a resolution has what the snapshot of a request replies
* `Resolution.IsWritable`: that a resolution can be written

## Main results

* `Wire.Shape.rename_eq_self`: a value keeps its names if names do not change
* `Snapshot.Descends.freeLevels_le`: what descends from a snapshot nests no deeper
* `Request.exists_resolve`: every request within the limits of a reader can be resolved
* `Service.every_request_is_answered`: the reply to a request that was read
-/

namespace ExperimentGroups

/-! ## Names and levels -/

namespace Wire

mutual

/-- **A value keeps its names** if names do not change. -/
theorem Shape.rename_eq_self {α : Type} {f : String → String} (hf : ∀ name, f name = name) :
    ∀ (s : Shape α) {a : α}, s.Holds a → s.rename f a = a
  | .text _ _, _, _ => rfl
  | .choice _ _, _, _ => rfl
  | .integer, _, _ => rfl
  | .double, _, _ => rfl
  | .share, _, _ => rfl
  | .anything, _, _ => rfl
  | .nullable _, none, _ => rfl
  | .nullable s, some _, h => congrArg some (s.rename_eq_self hf h)
  | .sequence _ s, xs, h => Json.map_eq_self fun x hx => s.rename_eq_self hf (h x hx)
  | .dict s, d, h => by
    have hentries : renameEntries f (s.rename f) d.entries = d.entries := by
      apply Json.map_eq_self
      intro e he
      rw [hf, s.rename_eq_self hf (h e he)]
    rw [Shape.rename, hentries]
    exact Dict.ext_entries (Dict.entries_ofList d.distinct)
  | .record fields make, a, h => by
    rw [Shape.rename, fields.rename_eq_values hf h.1, h.2]

theorem Fields.rename_eq_values {ρ β : Type} {f : String → String} (hf : ∀ name, f name = name) :
    ∀ (fields : Fields ρ β) {r : ρ}, fields.Holds r → fields.rename f r = fields.values r
  | .done, _, _ => rfl
  | .field _ _ _ s rest, _, h =>
    Prod.ext (s.rename_eq_self hf h.1) (rest.rename_eq_values hf h.2)

end

theorem Shape.freeLevels_record {α β : Type} (fields : Fields α β) (make : β → Except Fault α)
    (a : α) : (Shape.record fields make).freeLevels a = fields.freeLevels a := by
  rw [Shape.freeLevels]

theorem Fields.freeLevels_field_le_iff {ρ α β : Type} (key : Key) (default : Option α)
    (get : ρ → α) (s : Shape α) (rest : Fields ρ β) {r : ρ} {n : Nat} :
    (Fields.field key default get s rest).freeLevels r ≤ n ↔
      s.freeLevels (get r) ≤ n ∧ rest.freeLevels r ≤ n := by
  rw [Fields.freeLevels, Nat.max_le]

theorem Shape.freeLevels_sequence_le_iff {α : Type} (kind : Sequence) (s : Shape α) {xs : List α}
    {n : Nat} : (Shape.sequence kind s).freeLevels xs ≤ n ↔ ∀ x ∈ xs, s.freeLevels x ≤ n := by
  rw [Shape.freeLevels, foldl_max_le_iff, List.forall_mem_map, and_iff_right n.zero_le]

theorem Shape.freeLevels_dict_le_iff {α : Type} (s : Shape α) {d : Dict α} {n : Nat} :
    (Shape.dict s).freeLevels d ≤ n ↔ ∀ e ∈ d.entries, s.freeLevels e.2 ≤ n := by
  rw [Shape.freeLevels, foldl_max_le_iff, List.forall_mem_map, and_iff_right n.zero_le]

end Wire

theorem Payload.freeLevels_map (members : Dict Json) :
    Payload.shape.freeLevels (.map members) =
      (Wire.Shape.dict .anything).freeLevels members := by
  simp [shape, fields, Wire.Shape.freeLevels, Wire.Fields.freeLevels, double?, doubles?, long?,
    longs?, text?, texts?, map?]

/-- The value of a payload has one level more than its members, and two at most if it has none. -/
theorem Payload.levels_le_of_value? {p : Payload} {j : Json} {n : Nat} (hp : p.value? = some j)
    (hlevels : Payload.shape.freeLevels p ≤ n) (hn : 1 ≤ n) : j.levels ≤ n + 1 := by
  have hitems : ∀ {α : Type} (f : α → Json) (l : List α), (∀ a, (f a).levels = 1) →
      (Json.array (l.map f)).levels ≤ n + 1 := by
    intro α f l hf
    rw [Json.levels, Nat.add_le_add_iff_right, Json.itemLevels_le_iff, List.forall_mem_map]
    intro a _
    rw [hf]
    exact hn
  cases p with
  | empty => cases hp
  | double x =>
    cases hp
    exact Nat.le_add_left 1 n
  | long m =>
    cases hp
    exact Nat.le_add_left 1 n
  | text s =>
    cases hp
    exact Nat.le_add_left 1 n
  | doubles xs =>
    cases hp
    exact hitems _ xs fun _ => rfl
  | longs ns =>
    cases hp
    exact hitems _ ns fun _ => rfl
  | texts ss =>
    cases hp
    exact hitems _ ss fun _ => rfl
  | map members =>
    cases hp
    rw [Payload.freeLevels_map, Wire.Shape.freeLevels_dict_le_iff] at hlevels
    rw [Json.ofDict, Json.levels, Nat.add_le_add_iff_right, Json.memberLevels_le_iff]
    exact hlevels

open Wire.Shape Wire.Fields in
theorem Bucket.freeLevels_payload {b : Bucket} {n : Nat} (h : Bucket.shape.freeLevels b ≤ n) :
    Payload.shape.freeLevels b.payloadOrEmpty ≤ n := by
  simp only [Bucket.shape, freeLevels_record, freeLevels_field_le_iff] at h
  obtain ⟨-, -, -, hpayload, -⟩ := h
  rw [payloadOrEmpty]
  cases hp : b.payload with
  | none => exact n.zero_le
  | some p =>
    rw [hp] at hpayload
    exact hpayload

namespace Snapshot

variable {s p : Snapshot} {n : Nat}

open Wire.Shape Wire.Fields

/-- The free-form parts of the buckets of a snapshot nest no deeper than those of the snapshot, and
neither do those of the buckets that are declared. -/
theorem freeLevels_bucket (h : shape.freeLevels s ≤ n) :
    (∀ e ∈ s.buckets.entries, Bucket.shape.freeLevels e.2 ≤ n) ∧
      ∀ e ∈ s.definitions.entries, ∀ b ∈ e.2.buckets, Bucket.shape.freeLevels b ≤ n := by
  simp only [shape, freeLevels_record, freeLevels_field_le_iff, freeLevels_dict_le_iff] at h
  obtain ⟨-, hbuckets, -, hdefinitions, -⟩ := h
  refine ⟨hbuckets, fun e he => ?_⟩
  have hdefinition := hdefinitions e he
  simp only [Definition.shape, freeLevels_record, freeLevels_field_le_iff,
    freeLevels_sequence_le_iff] at hdefinition
  obtain ⟨-, -, -, -, -, -, hdeclared, -⟩ := hdefinition
  exact hdeclared

/-- **What descends from a snapshot nests no deeper.** -/
theorem Descends.freeLevels_le (hs : Descends s.Described s p) (h : shape.freeLevels s ≤ n) :
    shape.freeLevels p ≤ n := by
  obtain ⟨hbuckets, hdefinitions⟩ := freeLevels_bucket h
  have hall := hs.forall_bucket (P := fun b => Bucket.shape.freeLevels b ≤ n) hbuckets hdefinitions
  simp only [shape, freeLevels_record, freeLevels_field_le_iff, freeLevels_dict_le_iff] at h ⊢
  rw [hs.matrixVersion, hs.allocations, hs.definitions]
  exact ⟨h.1, hall, h.2.2⟩

end Snapshot

/-! ## Requested tests -/

/-- **The payload of the bucket that carries the effective value** of a test, empty if there is
none. -/
def Groups.payloadOf (g : Groups) (test : String) : Payload :=
  ((g.snapshot.activeBucket test (g.valueOf test)).value?.map Bucket.payloadOrEmpty).getD .empty

/-- What a client is told about the tests it asks for. -/
def Groups.requested (g : Groups) (tests : List RequestedTest) : List (Int × Option Json) :=
  tests.map fun test =>
    ((g.valueOf test.name).getD test.fallbackValue, (g.payloadOf test.name).value?)

namespace Override

variable {s : Snapshot} {plan? : Option (Plan Override)}
  (h : (presentHoldouts s (rules plan?)).Subsingleton)

include h

theorem reply_payload_none (test : String) :
    (groups s plan?).reply (.payload s test none) = .ok ((groups s plan?).payloadOf test) := by
  rw [Query.payload, Groups.reply_bind_pure, reply_metadata_none h]
  apply congrArg Except.ok
  show _ = ((s.activeBucket test ((groups s plan?).valueOf test)).value?.map _).getD _
  cases (s.activeBucket test ((groups s plan?).valueOf test)).value? with
  | none => rfl
  | some b =>
    -- A payload that is not looked for is empty.
    by_cases hin : Facet.payload.isIn b.metadata = true
    · simp [Option.filter, hin]
      rfl
    · have hempty : b.payloadOrEmpty.isEmpty = true := by
        simpa [Facet.isIn, Bucket.metadata] using hin
      have hnone : b.payloadOrEmpty = .empty := by
        cases hp : b.payloadOrEmpty <;> simp_all [Payload.isEmpty]
      simp [Option.filter, hin, hnone]

theorem reply_requestedConfiguration (tests : List RequestedTest) :
    (groups s plan?).reply (.requestedConfiguration s tests) =
      .ok ((groups s plan?).requested tests) := by
  have hrequested : ∀ test : RequestedTest, (groups s plan?).reply (.requested s test) =
      .ok (((groups s plan?).valueOf test.name).getD test.fallbackValue,
        ((groups s plan?).payloadOf test.name).value?) := by
    intro test
    have hreply : (groups s plan?).reply (.requested s test) = _ :=
      Groups.reply_requested (resolves h) test
    rw [hreply]
    exact congrArg (Except.map _) (reply_payload_none h test.name)
  rw [Query.requestedConfiguration, Groups.reply_mapM]
  exact mapM_eq_ok fun test _ => hrequested test

/-- The payload of a test is empty or that of a bucket that is described. -/
theorem payloadOf_eq (test : String) : (groups s plan?).payloadOf test = .empty ∨
    ∃ bucket, s.Described test bucket ∧
      (groups s plan?).payloadOf test = bucket.payloadOrEmpty := by
  cases hb : s.buckets.get? test with
  | none =>
    left
    simp [Groups.payloadOf, groups, s.activeBucket_of_absent hb, Lookup.value?]
  | some determined =>
    right
    obtain ⟨b, ha⟩ := exists_activeBucket h hb
    obtain ⟨e, he⟩ := (resolves h).valueOf_of_mem (Dict.mem_keys_of_get? hb)
    refine ⟨b, Snapshot.described_of_activeBucket hb (he ▸ ha), ?_⟩
    show ((s.activeBucket test ((groups s plan?).valueOf test)).value?.map _).getD _ = _
    rw [ha]
    rfl

/-- The value of a requested test has one level more than the free-form parts of the snapshot. -/
theorem levels_le_of_mem_requested {n : Nat} (hlevels : Snapshot.shape.freeLevels s ≤ n)
    (hn : 1 ≤ n) (tests : List RequestedTest) :
    ∀ answer ∈ (groups s plan?).requested tests, ∀ j ∈ answer.2, j.levels ≤ n + 1 := by
  obtain ⟨hbuckets, hdefinitions⟩ := Snapshot.freeLevels_bucket hlevels
  rw [Groups.requested, List.forall_mem_map]
  intro test _ j hj
  have hpayload : Payload.shape.freeLevels ((groups s plan?).payloadOf test.name) ≤ n := by
    rcases payloadOf_eq h test.name with hempty | ⟨b, hb, heq⟩
    · rw [hempty]
      exact n.zero_le
    · rw [heq]
      apply Bucket.freeLevels_payload
      exact hb.of_forall (P := fun b => Bucket.shape.freeLevels b ≤ n) hbuckets hdefinitions
  exact Payload.levels_le_of_value? hj hpayload hn

end Override

/-! ## Requests -/

theorem RequestedTest.lawful : RequestedTest.shape.Lawful := by
  refine And.intro (by decide) (And.intro (by rintro b a ⟨⟩; rfl) ?_)
  refine Wire.Fields.lawful_required trivial rfl ?_
  exact Wire.Fields.lawful_required trivial rfl trivial

namespace Request

theorem isWithinDigits_one : Text.isWithinDigits 1 = true :=
  Text.isWithinDigits_of_lt (k := 1) (by decide) (by decide)

theorem lawful : shape.Lawful := by
  refine And.intro (by decide) (And.intro (by rintro b a ⟨⟩; rfl) ?_)
  refine Wire.Fields.lawful_required Snapshot.lawful rfl ?_
  refine Wire.Fields.lawful_nullable trivial rfl ?_
  refine Wire.Fields.lawful_default trivial rfl ⟨trivial, rfl, fun _ => .int isWithinDigits_one⟩ ?_
  refine Wire.Fields.lawful_default trivial rfl (Wire.Shape.isDefault_empty _) ?_
  exact Wire.Fields.lawful_default RequestedTest.lawful rfl (Wire.Shape.isDefault_nil _ _) trivial

variable {request : Request} {body : Json}

theorem holds_snapshot (h : shape.read .value body = .ok request) :
    Snapshot.shape.Holds request.snapshot :=
  (shape.holds_of_read lawful h).1.1

/-- The snapshot of a request takes less room than the request. -/
theorem fits_snapshot {room : Nat} (h : shape.read .value body = .ok request)
    (hbody : Json.Fits (room + 1) body) (hroom : 8 ≤ room) (style : Wire.Style) :
    Json.Fits room (Snapshot.shape.write style request.snapshot) := by
  have hheight : shape.height ≤ room + 1 := le_trans (by decide) (Nat.succ_le_succ hroom)
  have hfits := shape.fits_write style lawful h hbody hheight
  exact hfits.of_mem (m := (style.name (.plain "snapshot"), _)) (.head _)

/-- The overrides of a request have one hold-out test at most. -/
theorem presentHoldouts (request : Request) :
    (Override.presentHoldouts request.snapshot (Override.rules
      (Override.plan request.holdoutTest request.holdoutValue request.forced))).Subsingleton :=
  Override.presentHoldouts_plan _ _ _ _

/-- **A resolution has what the snapshot of a request replies** under its overrides. -/
structure ResolvesTo (request : Request) (r : Resolution) : Prop where
  longString : request.groups.reply (.longString request.snapshot) = .ok r.longString
  loggingString : request.groups.reply (.loggingString request.snapshot) = .ok r.loggingString
  configuration : request.groups.reply (.configuration request.snapshot) = .ok r.configuration
  requestedConfiguration :
    request.groups.reply (.requestedConfiguration request.snapshot request.requestedTests) =
      .ok r.requestedConfiguration
  projection :
    request.groups.reply (.projection request.snapshot request.groups.hook) = .ok r.projection

theorem ResolvesTo.exists_resolve {r : Resolution} (hr : request.ResolvesTo r) :
    ∃ log, request.resolve = .ok ⟨r, log⟩ := by
  apply Groups.run_of_reply
  simp only [Groups.reply_bind, hr.longString, hr.loggingString, hr.configuration,
    hr.requestedConfiguration, hr.projection, Groups.reply_pure]
  rfl

/-- **Every request within the limits of a reader can be resolved.** -/
theorem exists_resolvesTo {style : Wire.Style} {room : Nat}
    (hfits : Json.Fits (room + 5) (Snapshot.shape.write style request.snapshot)) :
    ∃ r, request.ResolvesTo r := by
  have h := request.presentHoldouts
  obtain ⟨long, hlong⟩ := Command.exists_reply_rendered h hfits "" .long
  obtain ⟨logging, hlogging⟩ := Command.exists_reply_rendered h hfits "" .logging
  refine ⟨⟨long, logging, request.groups.configured,
    request.groups.requested request.requestedTests,
    request.snapshot.projected request.groups.valueOf⟩, ?_⟩
  constructor
  case longString => exact hlong
  case loggingString => exact hlogging
  case configuration => exact Groups.reply_configuration (Override.resolves h)
  case requestedConfiguration => exact Override.reply_requestedConfiguration h _
  case projection => exact Override.reply_projection_rules h

variable {r : Resolution}

theorem ResolvesTo.configuration_eq (hr : request.ResolvesTo r) :
    r.configuration = request.groups.configured :=
  Except.ok.inj <| hr.configuration.symm.trans <|
    Groups.reply_configuration (Override.resolves request.presentHoldouts)

theorem ResolvesTo.requestedConfiguration_eq (hr : request.ResolvesTo r) :
    r.requestedConfiguration = request.groups.requested request.requestedTests :=
  Except.ok.inj <| hr.requestedConfiguration.symm.trans <|
    Override.reply_requestedConfiguration request.presentHoldouts _

theorem ResolvesTo.projection_eq (hr : request.ResolvesTo r) :
    r.projection = request.snapshot.projected request.groups.valueOf :=
  Except.ok.inj <| hr.projection.symm.trans <|
    Override.reply_projection_rules request.presentHoldouts

theorem ResolvesTo.descends (hr : request.ResolvesTo r) :
    Snapshot.Descends request.snapshot.Described request.snapshot r.projection :=
  hr.projection_eq ▸ Override.descends_projected request.presentHoldouts

/-- A resolution keeps its names if names do not change. -/
theorem ResolvesTo.rename_eq_self (hr : request.ResolvesTo r)
    (hholds : Snapshot.shape.Holds request.snapshot) {f : String → String}
    (hf : ∀ name, f name = name) : r.rename f = r := by
  rw [Resolution.rename, Snapshot.shape.rename_eq_self hf (hr.descends.holds hholds)]

/-- **A resolution can be written** if the free-form values of the snapshot stay below the limit. -/
theorem ResolvesTo.isWithinNesting (hr : request.ResolvesTo r)
    (hlevels : Snapshot.shape.freeLevels request.snapshot < Wire.nestingLimit) :
    r.isWithinNesting = true := by
  have h := request.presentHoldouts
  have hrequested := Override.levels_le_of_mem_requested h
    (Nat.le_pred_of_lt hlevels) (by decide) request.requestedTests
  rw [Resolution.isWithinNesting, Bool.and_eq_true, List.all_eq_true]
  constructor
  · intro answer hanswer
    rw [hr.requestedConfiguration_eq] at hanswer
    rw [Option.all_eq_true]
    intro j hj
    exact decide_eq_true (hrequested answer hanswer j hj)
  · exact decide_eq_true (hr.descends.freeLevels_le hlevels.le)

end Request

/-! ## Replies -/

/-- **That a resolution can be written**, where a block may stand for lone surrogates: its free-form
values do not nest too deeply, and no lone surrogate is left in it. -/
def Resolution.IsWritable (block : Option Nat) (r : Resolution) : Prop :=
  r.isWithinNesting = true ∧ Service.isBroken block r.json = false

theorem isFinite_configurationJson (values : Dict Int) :
    (configurationJson values).isFinite = true := by
  rw [configurationJson, Json.ofDict, Json.isFinite, Json.membersFinite_iff, Dict.map,
    List.forall_mem_map]
  intro e _
  rfl

/-- A resolution has no number that cannot be written. -/
theorem Resolution.isFinite_json (r : Resolution) : r.json.isFinite = true := by
  simp [json, Json.isFinite, Json.membersFinite, isFinite_configurationJson,
    Json.isFinite_dropNonFinite]

/-- **That a message carries a value**, with the block that stands for its lone surrogates: it was
read from the text of the message, or is handed over within the same limits. -/
inductive Content.Carries : Content → Json → Option Nat → Prop
  | text {s : String} {body : Json} {block : Option Nat}
    (h : (Json.decode? s).map (Json.readSymbols .lenient) = some (.ok (body, block))) :
    Carries (.text s) body block
  | value {body : Json} {block : Option Nat} (h : Json.Fits 967 body) :
    Carries (.value body block) body block

theorem Content.Carries.fits {content : Content} {body : Json} {block : Option Nat}
    (h : content.Carries body block) : Json.Fits 967 body := by
  cases h with
  | value h => exact h
  | text h =>
    obtain ⟨ss, -, hread⟩ := Option.map_eq_some_iff.1 h
    exact Json.fits_of_readSymbols rfl hread

namespace Service

theorem resolve_of_carries {content : Content} {body : Json} {block : Option Nat}
    (h : content.Carries body block) : resolve content = resolveValue body block := by
  cases h with
  | value h => rfl
  | @text s _ _ h =>
    -- The empty text is no JSON, so it carries nothing.
    have hs : s.isEmpty = false := by
      by_contra hempty
      obtain rfl : s = "" := by simpa using hempty
      have hnone : (Json.decode? "").map (Json.readSymbols .lenient) = some (.error .malformed) := by
        decide +kernel
      rw [hnone] at h
      cases h
    simp only [resolve, hs, h]
    rfl

/-- A message to the place of resolutions is answered there. -/
theorem respond_resolve (settings : Settings) (content : Content) :
    respond settings "POST" "/groups/resolve" content = resolve content := by
  have harrive : Address.arrive "/groups/resolve" = .ok "/groups/resolve".toList := by
    decide +kernel
  have hroute : route? "/groups/resolve".toList = some .resolve := by decide +kernel
  have hupper : String.ofList (Text.upper "POST".toList) = "POST" := by decide +kernel
  simp only [respond, harrive, hroute, hupper]
  rfl

/-- The reply to a request that was read and resolved: the resolution, if it can be written. -/
theorem resolveValue_of_resolvesTo {body : Json} {block : Option Nat} {request : Request}
    {r : Resolution} (hrequest : Request.shape.read .value body = .ok request)
    (hnames : hasBrokenTest block body = false) (hr : request.ResolvesTo r) :
    resolveValue body block =
      if (r.rename (repairedName block)).isWithinNesting &&
          !isBroken block (r.rename (repairedName block)).json then
        .resolved (r.rename (repairedName block))
      else .badRequest := by
  obtain ⟨log, hresolve⟩ := hr.exists_resolve
  simp only [resolveValue, hnames, hrequest, hresolve]
  rfl

theorem hasBrokenTest_none (body : Json) : hasBrokenTest none body = false := by
  unfold hasBrokenTest
  split
  · rw [List.any_eq_false]
    intro test _
    split <;> simp [isBroken]
  · rfl

/-- Without lone surrogates the reply is the resolution itself, if it does not nest too deeply. -/
theorem respond_of_resolvesTo {content : Content} {body : Json} {request : Request}
    {r : Resolution} (hcontent : content.Carries body none)
    (hrequest : Request.shape.read .value body = .ok request) (hr : request.ResolvesTo r)
    (hnesting : r.isWithinNesting = true) (settings : Settings) :
    respond settings "POST" "/groups/resolve" content = .resolved r := by
  have hsame := hr.rename_eq_self (Request.holds_snapshot hrequest)
    (f := repairedName none) fun _ => rfl
  rw [respond_resolve, resolve_of_carries hcontent,
    resolveValue_of_resolvesTo hrequest (hasBrokenTest_none body) hr, hsame, hnesting]
  rfl

/-- Without lone surrogates and without deep free-form values the reply is the resolution. -/
theorem exists_resolved {content : Content} {body : Json} {request : Request}
    (hcontent : content.Carries body none)
    (hrequest : Request.shape.read .value body = .ok request)
    (hlevels : Snapshot.shape.freeLevels request.snapshot < Wire.nestingLimit) :
    ∃ r, request.ResolvesTo r ∧
      ∀ settings, respond settings "POST" "/groups/resolve" content = .resolved r := by
  have hfits := Request.fits_snapshot hrequest hcontent.fits (by decide) .wire
  obtain ⟨r, hr⟩ := Request.exists_resolvesTo hfits
  exact ⟨r, hr, respond_of_resolvesTo hcontent hrequest hr (hr.isWithinNesting hlevels)⟩

/-- **Every request is answered.** A request that was read can be resolved, and has the five parts
that its snapshot replies; none of their numbers cannot be written. The resolution is the reply if
it can be written, and otherwise the request is a bad one; the service never fails. Without lone
surrogates in the request, the resolution keeps its names, and it can be written if its free-form
values do not nest too deeply, as they do not if those of the snapshot stay below the limit. -/
theorem every_request_is_answered {content : Content} {body : Json} {block : Option Nat}
    {request : Request} (hcontent : content.Carries body block)
    (hrequest : Request.shape.read .value body = .ok request)
    (hnames : hasBrokenTest block body = false) (settings : Settings) :
    ∃ r written, (∃ log, request.resolve = .ok ⟨r, log⟩) ∧ request.ResolvesTo r ∧
      written = r.rename (repairedName block) ∧ written.json.isFinite = true ∧
      (written.IsWritable block →
        respond settings "POST" "/groups/resolve" content = .resolved written) ∧
      (¬ written.IsWritable block →
        respond settings "POST" "/groups/resolve" content = .badRequest) ∧
      (block = none → written = r ∧ (written.IsWritable block ↔ r.isWithinNesting = true) ∧
        (Snapshot.shape.freeLevels request.snapshot < Wire.nestingLimit →
          r.isWithinNesting = true)) := by
  have hfits := Request.fits_snapshot hrequest hcontent.fits (by decide) .wire
  obtain ⟨r, hr⟩ := Request.exists_resolvesTo hfits
  -- All that can keep the resolution from being the reply is that it cannot be written.
  have hreply := resolveValue_of_resolvesTo hrequest hnames hr
  refine ⟨r, _, hr.exists_resolve, hr, rfl, Resolution.isFinite_json _, ?_, ?_, ?_⟩
  · rintro ⟨hnesting, hbroken⟩
    rw [respond_resolve, resolve_of_carries hcontent, hreply, hnesting, hbroken]
    rfl
  · intro hunwritable
    rw [respond_resolve, resolve_of_carries hcontent, hreply, if_neg]
    simpa [Resolution.IsWritable] using hunwritable
  · rintro rfl
    have hsame := hr.rename_eq_self (Request.holds_snapshot hrequest)
      (f := repairedName none) fun _ => rfl
    refine ⟨hsame, ?_, hr.isWithinNesting⟩
    rw [hsame]
    exact and_iff_left rfl

/-- A request with a number that is not finite, a hold-out, a pin and a test that is asked for. -/
def unusual : String :=
  "\x7b\"snapshot\":\x7b\"buckets\":\x7b\"page\":\x7b\"name\":\"on\",\"value\":1," ++
    "\"payload\":\x7b\"doubleValue\":NaN\x7d\x7d\x7d\x7d,\"holdout_test\":\"page\"," ++
    "\"forced\":\x7b\"page\":3\x7d," ++
    "\"requested_tests\":[\x7b\"name\":\"page\",\"fallback_value\":0\x7d]\x7d"

/-- The value of its text. -/
def unusualBody : Json :=
  .object
    [("snapshot", .object [("buckets", .object [("page", .object
        [("name", .text "on"), ("value", .int 1),
          ("payload", .object [("doubleValue", .double .nan)])])])]),
      ("holdout_test", .text "page"), ("forced", .object [("page", .int 3)]),
      ("requested_tests", .array [.object [("name", .text "page"), ("fallback_value", .int 0)]])]

/-- It is answered with its resolution. -/
theorem every_request_is_answered_unusual : ∃ r : Resolution, r.json.isFinite = true ∧
    respond ⟨.dev, .info, ","⟩ "POST" "/groups/resolve" (.text unusual) = .resolved r := by
  have hread : (Json.decode? unusual).map (Json.readSymbols .lenient) =
      some (.ok (unusualBody, none)) := by
    decide +kernel
  have hrequest : Request.shape.read .value unusualBody = .ok
      ⟨⟨"", .ofList [("page", ⟨"on", 1, "", some (.double .nan)⟩)], .empty, .empty⟩, some "page", 1,
        .ofList [("page", 3)], [⟨"page", 0⟩]⟩ := by
    decide +kernel
  obtain ⟨r, written, -, -, -, hfinite, hresolved, -, hnone⟩ :=
    every_request_is_answered (.text hread) hrequest (by decide +kernel) ⟨.dev, .info, ","⟩
  obtain ⟨-, hwritable, hnesting⟩ := hnone rfl
  exact ⟨written, hfinite, hresolved (hwritable.2 (hnesting (by decide +kernel)))⟩

/-- A snapshot with one test, in a bucket with a name and a value and one member more. -/
def singleSnapshot (name : String) (j : Json) : Json :=
  .object [("buckets", .object [("page", .object
    [("name", .text "on"), ("value", .int 1), (name, j)])])]

/-- A request for it. -/
def single (name : String) (j : Json) : Json := .object [("snapshot", singleSnapshot name j)]

theorem fits_single {name : String} {j : Json} (h : Json.Fits 963 j) :
    Json.Fits 967 (single name j) := by
  refine .object (fun _ => by decide) (List.forall_mem_singleton.2 ?_)
  refine .object (fun _ => by decide) (List.forall_mem_singleton.2 ?_)
  refine .object (fun _ => by decide) (List.forall_mem_singleton.2 ?_)
  refine .object (fun _ => by decide) ?_
  simp only [List.forall_mem_cons]
  exact ⟨.text, .int Request.isWithinDigits_one, h, fun _ hm => by cases hm⟩

/-- A request with a lone surrogate in a description. -/
def lone : String :=
  "\x7b\"snapshot\":\x7b\"buckets\":\x7b\"page\":\x7b\"name\":\"on\",\"value\":1," ++
    "\"description\":\"\\ud800\"\x7d\x7d\x7d\x7d"

/-- A text of the character that stands for it. -/
def standIn : String := String.ofList [Char.ofNat 0xF0000]

/-- The request that is read from it. -/
def loneRequest : Request :=
  ⟨⟨"", .ofList [("page", ⟨"on", 1, standIn, none⟩)], .empty, .empty⟩, none, 1, .empty, []⟩

theorem carries_lone :
    Content.Carries (.text lone) (single "description" (.text standIn)) (some 0xF0000) :=
  .text (by decide +kernel)

theorem read_lone :
    Request.shape.read .value (single "description" (.text standIn)) = .ok loneRequest := by
  decide +kernel

theorem status_lone (settings : Settings) :
    (respond settings "POST" "/groups/resolve" (.text lone)).status = 400 := by
  rw [respond_resolve]
  decide +kernel

/-- A payload with arrays within one another. -/
def deepPayload (n : Nat) : Json := .object [("map", .object [("a", Contract.nested n)])]

theorem fits_nested (n : Nat) : Json.Fits n (Contract.nested n) := by
  induction n with
  | zero => exact .null
  | succ n ih => exact .array (fun _ => n.succ_pos) (by simpa using ih)

theorem fits_single_deepPayload {n : Nat} (hn : n ≤ 961) :
    Json.Fits 967 (single "payload" (deepPayload n)) := by
  apply fits_single
  refine .object (fun _ => by decide) (List.forall_mem_singleton.2 ?_)
  refine .object (fun _ => by decide) (List.forall_mem_singleton.2 ?_)
  exact (fits_nested n).mono hn

/-- **Not every request is answered with its resolution**: a lone surrogate in a text cannot be
written, and neither can a payload that nests too deeply. -/
theorem not_every_request_is_answered :
    (∃ body block request, Content.Carries (.text lone) body block ∧
        Request.shape.read .value body = .ok request ∧ hasBrokenTest block body = false ∧
        ∀ settings, (respond settings "POST" "/groups/resolve" (.text lone)).status = 400) ∧
      ∃ body request, Content.Carries (.value body none) body none ∧
        Request.shape.read .value body = .ok request ∧ hasBrokenTest none body = false ∧
        ∀ settings, (respond settings "POST" "/groups/resolve" (.value body none)).status = 400 := by
  constructor
  · exact ⟨_, _, _, carries_lone, read_lone, by decide +kernel, status_lone⟩
  · refine ⟨single "payload" (deepPayload 255),
      ⟨⟨"", .ofList [("page", ⟨"on", 1, "", some (Contract.deep 255)⟩)], .empty, .empty⟩, none, 1,
        .empty, []⟩, .value (fits_single_deepPayload (by decide)), by decide +kernel,
      by decide +kernel, fun settings => ?_⟩
    rw [respond_resolve]
    decide +kernel

end Service

end ExperimentGroups
