import ExperimentGroups.Groups.Document
import ExperimentGroups.Proofs.Candidates
import ExperimentGroups.Proofs.FreeForm
import ExperimentGroups.Proofs.Grammar
import ExperimentGroups.Proofs.Rendering

/-!
# What the text of a configuration says

The text of a configuration spells the configuration: whatever follows the grammar reads it from
there, with integers of any size, doubles to the last bit, the members of payloads in their order,
and a null for what is not finite. The configuration of all logged tests always has a text. That of
requested tests has none if a payload nests too deeply, and it fails if the value of a requested
test is not declared and has too many digits for the reason why no payload was found.

## Main definitions

* `Json.IsTextOf`: what a reader finds in the text of a value
* `Groups.told`, `Groups.IsTold`: what a requested test is answered with, and that it is
* `Groups.Documents`: that the texts of configurations say what these are

## Main results

* `Json.isTextOf_render`: the written text of a value
* `Groups.configurations_are_spelled`: the texts of configurations
-/

namespace ExperimentGroups

/-! ## The text of a value -/

namespace Json

/-- **A text of a value**: whoever follows the grammar finds the value in it, with a null for what
is not finite, and so does the reader of documents within its limits. -/
structure IsTextOf (text : String) (j : Json) : Prop where
  /-- A reader may let in blanks, but there are none. -/
  spells : ∀ blanks found, Spells blanks text.toList found ↔ found = j.dropNonFinite
  read : Fits 200 j → read? .strict text.toList = some j.dropNonFinite

theorem isTextOf_render (j : Json) : IsTextOf j.render j := by
  constructor
  case spells =>
    intro blanks found
    rw [toList_render]
    exact spells_chars_iff blanks j found
  case read =>
    intro hfits
    rw [toList_render]
    exact read?_chars hfits.dropNonFinite

theorem render?_of_le {j : Json} (h : j.levels ≤ Wire.nestingLimit) : j.render? = some j.render :=
  if_pos h

theorem render?_of_lt {j : Json} (h : Wire.nestingLimit < j.levels) : j.render? = none :=
  if_neg (Nat.not_le.2 h)

end Json

/-- The configuration of logged tests is an object of integers. -/
theorem levels_configurationJson_le (values : Dict Int) : (configurationJson values).levels ≤ 2 := by
  have hmembers : Json.memberLevels (values.map fun _ n => Json.int n).entries ≤ 1 := by
    rw [Json.memberLevels_le_iff]
    intro m hm
    obtain ⟨entry, _, rfl⟩ := List.mem_map.1 hm
    exact Nat.le_refl 1
  exact Nat.succ_le_succ hmembers

namespace Groups

/-! ## Requested tests -/

/-- What a requested test is answered with: its value, and the value of the payload that is found
without a fallback. -/
def told (g : Groups) (test : RequestedTest) : Int × Option Json :=
  ((g.valueOf test.name).getD test.fallbackValue,
    (firstPayload (g.snapshot.candidates test.name (g.valueOf test.name) none)).value?)

/-- **That a requested test is answered**: the reason why it has no payload can be written. -/
def IsTold (g : Groups) (test : RequestedTest) : Prop :=
  g.snapshot.Explicable test.name .payload (g.valueOf test.name) none

variable {g : Groups}

theorem Resolves.reply_requested_of_isTold (h : g.Resolves) {test : RequestedTest}
    (ht : g.IsTold test) : g.reply (.requested g.snapshot test) = .ok (g.told test) := by
  rw [reply_requested h]
  exact congrArg (Except.map _) (h.payloadFor_of_explicable ht)

theorem Resolves.reply_requested_of_not_isTold (h : g.Resolves) {test : RequestedTest}
    (ht : ¬ g.IsTold test) : g.reply (.requested g.snapshot test) = .error .excess := by
  rw [reply_requested h]
  exact congrArg (Except.map _) (h.payloadFor_of_not_explicable ht)

/-- **One test that is not answered** is enough for the others not to be answered either. -/
theorem Resolves.reply_requestedConfiguration_of_not_isTold (h : g.Resolves)
    {tests : List RequestedTest} (ht : ∃ test ∈ tests, ¬ g.IsTold test) :
    g.reply (.requestedConfiguration g.snapshot tests) = .error .excess := by
  rw [Query.requestedConfiguration, reply_mapM]
  -- Each test is answered or ends the query, and one of them ends it.
  apply mapM_eq_error
  · intro test _
    by_cases hx : g.IsTold test
    · exact .inr ⟨_, h.reply_requested_of_isTold hx⟩
    · exact .inl (h.reply_requested_of_not_isTold hx)
  · obtain ⟨test, hm, hx⟩ := ht
    exact ⟨test, hm, h.reply_requested_of_not_isTold hx⟩

/-! ## Configurations -/

theorem reply_configurationText (tests? : Option (List RequestedTest)) :
    g.reply (.configurationText g.snapshot tests?) =
      (g.reply (.configurationValue g.snapshot tests?)).map Json.render? :=
  g.reply_bind_pure _ _

theorem Resolves.reply_configurationValue_none (h : g.Resolves) :
    g.reply (.configurationValue g.snapshot none) = .ok (configurationJson g.configured) := by
  rw [Query.configurationValue, reply_bind_pure, reply_configuration h]
  rfl

theorem reply_configurationValue_some (tests : List RequestedTest) :
    g.reply (.configurationValue g.snapshot (some tests)) =
      (g.reply (.requestedConfiguration g.snapshot tests)).map requestedConfigurationJson :=
  g.reply_bind_pure _ _

/-- **The texts of configurations** say what these are. -/
structure Documents (g : Groups) : Prop where
  /-- Without a request, there is a configuration. -/
  logged : g.reply (.configurationValue g.snapshot none) = .ok (configurationJson g.configured)
  /-- The requested tests come in their order, repeats included. -/
  requested : ∀ tests, (∀ test ∈ tests, g.IsTold test) →
    g.reply (.configurationValue g.snapshot (some tests)) =
      .ok (requestedConfigurationJson (tests.map g.told))
  /-- A reason that cannot be written ends the query. -/
  excess : ∀ tests, (∃ test ∈ tests, ¬ g.IsTold test) →
    g.reply (.configurationText g.snapshot (some tests)) = .error .excess
  /-- Only the payload of a requested test nests too deeply. -/
  text : ∀ tests? j, g.reply (.configurationValue g.snapshot tests?) = .ok j →
    (tests? = none ∨ j.levels ≤ Wire.nestingLimit) →
      ∃ text, g.reply (.configurationText g.snapshot tests?) = .ok (some text) ∧
        Json.IsTextOf text j
  deep : ∀ tests? j, g.reply (.configurationValue g.snapshot tests?) = .ok j →
    Wire.nestingLimit < j.levels → g.reply (.configurationText g.snapshot tests?) = .ok none
  /-- No name of a logged test is read twice. -/
  names : ∀ text blanks found, g.reply (.configurationText g.snapshot none) = .ok (some text) →
    Json.Spells blanks text.toList found →
      ∃ members, found = .object members ∧ (members.map Prod.fst).Nodup

/-- **The text of a configuration spells the configuration**: for every snapshot and every hook
under which the tests have values, what is read from the text is the configuration, with a null for
what is not finite. -/
theorem configurations_are_spelled (g : Groups) (h : g.Resolves) : g.Documents := by
  have htext : ∀ {tests? j}, g.reply (.configurationValue g.snapshot tests?) = .ok j →
      g.reply (.configurationText g.snapshot tests?) = .ok j.render? := by
    intro tests? j hj
    rw [reply_configurationText, hj]
    rfl
  have hnone : (configurationJson g.configured).levels ≤ Wire.nestingLimit :=
    (levels_configurationJson_le _).trans (by decide)
  constructor
  case logged => exact h.reply_configurationValue_none
  case requested =>
    intro tests ht
    have hpairs := mapM_eq_ok fun test hm => h.reply_requested_of_isTold (ht test hm)
    rw [reply_configurationValue_some, Query.requestedConfiguration, reply_mapM, hpairs]
    rfl
  case excess =>
    intro tests ht
    rw [reply_configurationText, reply_configurationValue_some,
      h.reply_requestedConfiguration_of_not_isTold ht]
    rfl
  case text =>
    intro tests? j hj hlevels
    -- The values of all logged tests nest in two levels only.
    have hle : j.levels ≤ Wire.nestingLimit := by
      rcases hlevels with rfl | hle
      · rw [h.reply_configurationValue_none, Except.ok.injEq] at hj
        exact hj ▸ hnone
      · exact hle
    refine ⟨j.render, ?_, Json.isTextOf_render j⟩
    rw [htext hj, Json.render?_of_le hle]
  case deep =>
    intro tests? j hj hlt
    rw [htext hj, Json.render?_of_lt hlt]
  case names =>
    intro text blanks found ht hfound
    rw [htext h.reply_configurationValue_none, Json.render?_of_le hnone, Except.ok.injEq,
      Option.some.injEq] at ht
    subst ht
    -- What is dropped leaves the names as they are.
    refine ⟨_, ((Json.isTextOf_render _).spells blanks found).1 hfound, ?_⟩
    rw [Json.dropNonFiniteMembers_eq_map, List.map_map]
    exact (g.configured.map fun _ n => Json.int n).distinct

/-- A test with a payload that holds a NaN, behind a name that must be escaped. -/
def decorated : Groups where
  snapshot := ⟨"", .ofList [("t", ⟨"on", 1, "",
    some (.map (.ofList [("\"\n\u2028", .double .nan), ("b", .int (-7))]))⟩)], .empty, .empty⟩
  hook := fun _ _ bucket => pure bucket.value

theorem resolves_decorated : decorated.Resolves :=
  resolves_of_reply fun test => ⟨_, reply_ask_of_pure _ _ test⟩

/-- The NaN is read as a null, and the members are in their order. -/
theorem configurations_are_spelled_decorated : decorated.Resolves ∧
    ∃ text, decorated.reply (.configurationText decorated.snapshot (some [⟨"t", 0⟩])) =
        .ok (some text) ∧
      Json.Spells true text.toList (.array [.array [.int 1,
        .object [("\"\n\u2028", .null), ("b", .int (-7))]]]) := by
  have hdocuments := configurations_are_spelled decorated resolves_decorated
  have hv : decorated.valueOf "t" = some 1 := valueOf_of_reply (reply_ask_of_pure _ _ "t")
  have hanswered : decorated.IsTold ⟨"t", 0⟩ :=
    (Snapshot.explicable_iff ..).2 (by rw [hv]; decide +kernel)
  have htold : decorated.told ⟨"t", 0⟩ =
      (1, some (.object [("\"\n\u2028", .double .nan), ("b", .int (-7))])) := by
    rw [told, hv]
    decide +kernel
  have hvalue := hdocuments.requested [⟨"t", 0⟩] (List.forall_mem_singleton.2 hanswered)
  obtain ⟨text, hreply, htext⟩ := hdocuments.text _ _ hvalue (.inr (by
    rw [List.map_singleton, htold]
    decide))
  refine ⟨resolves_decorated, text, hreply, (htext.spells true _).2 ?_⟩
  rw [List.map_singleton, htold]
  rfl

/-- **Not every configuration has a text**: the hook chose a value that is not declared, and the
reason why there is no payload has a digit too many. -/
theorem not_configuration_shifted :
    (shifted (1 - Nat.pow 10 Text.digitLimit) (-1)).Resolves ∧
    (shifted (1 - Nat.pow 10 Text.digitLimit) (-1)).told ⟨"t", 0⟩ =
      (-((Nat.pow 10 Text.digitLimit : Nat) : Int), none) ∧
    (shifted (1 - Nat.pow 10 Text.digitLimit) (-1)).reply (.configurationText
      (shifted (1 - Nat.pow 10 Text.digitLimit) (-1)).snapshot (some [⟨"t", 0⟩])) =
        .error .excess := by
  have hv := valueOf_shifted (1 - Nat.pow 10 Text.digitLimit) (-1)
  have hr := resolves_shifted (1 - Nat.pow 10 Text.digitLimit) (-1)
  refine ⟨hr, ?_, ?_⟩
  · rw [told, hv]
    decide +kernel
  · have hexcess : ¬ (shifted (1 - Nat.pow 10 Text.digitLimit) (-1)).IsTold ⟨"t", 0⟩ := by
      rw [IsTold, Snapshot.explicable_iff, hv]
      decide +kernel
    rw [reply_configurationText, reply_configurationValue_some,
      hr.reply_requestedConfiguration_of_not_isTold ⟨_, List.mem_singleton_self _, hexcess⟩]
    rfl

end Groups

end ExperimentGroups
