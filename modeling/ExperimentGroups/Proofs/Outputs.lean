import ExperimentGroups.Proofs.Independence

/-!
# All outputs tell the same effective values

Every output of a snapshot with its hook runs the hook anew, some of them first for the names of the
tests and then for their values. If every test of the snapshot has an effective value, there is one
assignment of values to the tests that all outputs tell: the queries about one test, the logged
tests, the configurations, the texts and the projection.

A text with a value of too many digits is not written at all. Whether a payload or a description is
found is another matter; the outputs that show them have what the query about the test replies.

## Main definitions

* `Groups.activeNames`: the tests whose assigned value is not negative
* `plainEntry`, `Snapshot.allocatedEntry?`: the two entries of a test with its assigned value
* `Groups.Tells`: that all outputs tell the assigned values

## Main results

* `Groups.exists_assignment`: the effective values as an assignment
* `Groups.segment_plain`, `Groups.segment_allocated`: the entries of the logged tests, one by one
* `Groups.outputs_agree`: all outputs tell the same values
-/

namespace ExperimentGroups

/-- The entry of a test with its assigned value. -/
def plainEntry (E : String → Int) (test : String) : String := test ++ Text.integerText (E test)

/-- The same with the identifier of the allocation in front, if there is one that is not empty. -/
def Snapshot.allocatedEntry? (s : Snapshot) (E : String → Int) (test : String) : Option String :=
  ((s.allocations.get? test).filter fun allocation => allocation.id ≠ "").map fun allocation =>
    allocation.id ++ ":" ++ plainEntry E test

theorem Snapshot.entry?_allocated (s : Snapshot) (E : String → Int) (test : String) :
    s.entry? .allocated test (E test) = s.allocatedEntry? E test := by
  rw [Snapshot.entry?, Snapshot.allocatedEntry?]
  cases s.allocations.get? test with
  | none => rfl
  | some allocation =>
    by_cases hid : allocation.id = ""
    · simp [hid]
    · simp [hid, plainEntry]

namespace Groups

/-- **The tests whose assigned value is not negative**, in the order of the snapshot. -/
def activeNames (g : Groups) (E : String → Int) : List String :=
  g.snapshot.buckets.keys.filter fun test => decide (0 ≤ E test)

/-- **All outputs tell the assigned values.** -/
structure Tells (g : Groups) (E : String → Int) : Prop where
  /-- The value of a test does not depend on the default, unless the test is absent. -/
  value : ∀ test default, g.reply (.value test default) =
    .ok (if test ∈ g.snapshot.buckets.keys then E test else default)
  /-- With a default, a test is in the bucket of its value. -/
  isActive_of_default : ∀ test n default, g.reply (.isActive test n (some default)) =
    (g.reply (.value test default)).map fun e => decide (e = n)
  /-- Without a default, only a test of the snapshot is in a bucket. -/
  isActive : ∀ test n, g.reply (.isActive test n none) =
    .ok (decide (test ∈ g.snapshot.buckets.keys ∧ E test = n))
  loggedNames : g.reply (.loggedNames g.snapshot) = .ok (g.activeNames E)
  configuration : ∃ values, g.reply (.configuration g.snapshot) = .ok values ∧
    values.keys = g.activeNames E ∧ ∀ test ∈ values.keys, values.get? test = some (E test)
  /-- The requested tests come in their order, repeats included. -/
  requestedConfiguration : ∀ requests,
    g.reply (.requestedConfiguration g.snapshot requests) = requests.mapM fun request =>
      (g.reply (.payload g.snapshot request.name)).map fun payload =>
        (if request.name ∈ g.snapshot.buckets.keys then E request.name else request.fallbackValue,
          payload.value?)
  /-- The entries of both forms, each form in the order of the names. -/
  loggingString : (∀ test ∈ g.activeNames E, Text.isWithinDigits (E test) = true) →
    ∀ names : List String, names.Perm (g.activeNames E) → names.Pairwise (· ≤ ·) →
      g.reply (.loggingString g.snapshot) = .ok (",".intercalate
        (names.map (plainEntry E) ++ names.filterMap (g.snapshot.allocatedEntry? E)))
  /-- The entries of both forms, each form in some order. -/
  allEntries : (∀ test ∈ g.activeNames E, Text.isWithinDigits (E test) = true) →
    ∀ separator, ∃ plain allocated : List String,
      plain.Perm ((g.activeNames E).map (plainEntry E)) ∧
      allocated.Perm ((g.activeNames E).filterMap (g.snapshot.allocatedEntry? E)) ∧
      g.reply (.allEntries g.snapshot separator) = .ok (separator.intercalate (plain ++ allocated))
  /-- A value of too many digits is not written, and nothing else either. -/
  excess : (∃ test ∈ g.activeNames E, Text.isWithinDigits (E test) = false) →
    g.reply (.loggingString g.snapshot) = .error .excess ∧
      ∀ separator, g.reply (.allEntries g.snapshot separator) = .error .excess
  /-- Every test of the snapshot, inactive ones included, with its description. -/
  longString : ∀ names : List String, names.Perm g.snapshot.buckets.keys →
    names.Pairwise (· ≤ ·) → g.reply (.longString g.snapshot) = (names.mapM fun test =>
      (g.reply (.description g.snapshot test)).map fun description =>
        if description = "" then test else test ++ "-" ++ description).map (",".intercalate ·)
  /-- The projection has the values as determined ones. -/
  projection : ∀ t, g.projection = .ok t →
    t.value.buckets.keys = g.snapshot.buckets.keys ∧
      ∀ test bucket, t.value.buckets.get? test = some bucket → bucket.value = E test

variable {g : Groups} {E : String → Int}

/-! ## Assigned values -/

/-- The values of the tests, and any value for other names. -/
theorem exists_assignment (h : g.Resolves) :
    ∃ E : String → Int, ∀ test,
      g.valueOf test = if test ∈ g.snapshot.buckets.keys then some (E test) else none := by
  refine ⟨fun test => (g.valueOf test).getD 0, fun test => ?_⟩
  by_cases hm : test ∈ g.snapshot.buckets.keys
  · obtain ⟨e, he⟩ := h.valueOf_of_mem hm
    simp [hm, he]
  · rw [if_neg hm, g.valueOf_of_absent ((g.snapshot.buckets.get?_eq_none_iff test).2 hm)]

/-- The value of a test is the assigned one, and that of another name the default. -/
theorem reply_value_assigned (h : g.Resolves)
    (hE : ∀ test, g.valueOf test = if test ∈ g.snapshot.buckets.keys then some (E test) else none)
    (test : String) (default : Int) :
    g.reply (.value test default) =
      .ok (if test ∈ g.snapshot.buckets.keys then E test else default) := by
  rw [reply_value h, hE]
  split <;> rfl

/-! ## The entries of the logged tests -/

section Assigned

variable (hE : ∀ test ∈ g.snapshot.buckets.keys, g.valueOf test = some (E test))

include hE

theorem isLogged_of_mem {test : String} (hm : test ∈ g.snapshot.buckets.keys) :
    g.isLogged test = decide (0 ≤ E test) := by
  simp [isLogged, hE test hm]

theorem filter_isLogged_keys : g.snapshot.buckets.keys.filter g.isLogged = g.activeNames E := by
  apply List.filter_congr
  intro test hm
  exact isLogged_of_mem hE hm

/-- The plain entries of the tests that are logged among some tests of the snapshot. -/
theorem segment_plain {names : List String} (hnames : ∀ test ∈ names, test ∈ g.activeNames E) :
    g.segment .plain names = names.map (plainEntry E) := by
  induction names with
  | nil => rfl
  | cons test names ih =>
    obtain ⟨hm, hactive⟩ := List.mem_filter.1 (hnames test List.mem_cons_self)
    have hentry : g.loggedEntry .plain test = some (plainEntry E test) := by
      rw [loggedEntry_plain, hE test hm, Option.filter_some, if_pos hactive]
      rfl
    rw [segment_cons, hentry, ih fun other ho => hnames other (List.mem_cons_of_mem _ ho)]
    rfl

/-- The allocated entries of the same tests; a test without an identifier has none. -/
theorem segment_allocated {names : List String}
    (hnames : ∀ test ∈ names, test ∈ g.activeNames E) :
    g.segment .allocated names = names.filterMap (g.snapshot.allocatedEntry? E) := by
  apply List.filterMap_congr
  intro test ht
  obtain ⟨hm, hactive⟩ := List.mem_filter.1 (hnames test ht)
  rw [loggedEntry, hE test hm, Option.filter_some, if_pos hactive, Option.bind_some,
    Snapshot.entry?_allocated]

/-- The values of the logged tests can be written if the assigned ones can. -/
theorem isLoggable_keys :
    g.isLoggable g.snapshot.buckets.keys =
      (g.activeNames E).all fun test => Text.isWithinDigits (E test) := by
  rw [← isLoggable_filter_isLogged, filter_isLogged_keys hE, isLoggable, Bool.eq_iff_iff,
    List.all_eq_true, List.all_eq_true]
  apply forall₂_congr
  intro test ht
  obtain ⟨hm, hactive⟩ := List.mem_filter.1 ht
  rw [hE test hm, Option.filter_some, if_pos hactive, Option.all_some]

/-- The configuration has the active tests in the order of the snapshot. -/
theorem keys_configured : g.configured.keys = g.activeNames E := by
  rw [configured, filter_isLogged_keys hE, Dict.keys, Dict.entries_ofList, List.map_map]
  · exact List.map_id' _
  · rw [List.map_map]
    exact (g.snapshot.buckets.distinct.filter _).map fun _ _ heq => heq

/-- The logging string, with the names in their one sorted order. -/
theorem reply_loggingString_assigned (h : g.Resolves) {names : List String}
    (hperm : names.Perm (g.activeNames E)) (hsorted : names.Pairwise (· ≤ ·)) :
    g.reply (.loggingString g.snapshot) =
      if (g.activeNames E).all fun test => Text.isWithinDigits (E test) then
        .ok (",".intercalate
          (names.map (plainEntry E) ++ names.filterMap (g.snapshot.allocatedEntry? E)))
      else .error .excess := by
  have hnames : (sortNames g.snapshot.buckets.keys).filter g.isLogged = names := by
    rw [← sortNames_filter, filter_isLogged_keys hE]
    exact eq_sortNames hperm hsorted
  have hmem : ∀ test ∈ names, test ∈ g.activeNames E := fun test ht => hperm.mem_iff.1 ht
  have hloggable : g.isLoggable (sortNames g.snapshot.buckets.keys) =
      g.isLoggable g.snapshot.buckets.keys := by
    rw [Bool.eq_iff_iff, isLoggable, isLoggable, List.all_eq_true, List.all_eq_true]
    exact forall_congr' fun test => by rw [(sortNames_perm _).mem_iff]
  -- The tests that are not logged have no entries, so the segments are those of the sorted names.
  rw [reply_loggingString h, hloggable, isLoggable_keys hE, ← segment_filter_isLogged,
    ← g.segment_filter_isLogged .allocated, hnames, segment_plain hE hmem,
    segment_allocated hE hmem]

/-- The entries of both forms, with the names in the order of the snapshot. -/
theorem reply_allEntries_assigned (h : g.Resolves) (separator : String) :
    g.reply (.allEntries g.snapshot separator) =
      if (g.activeNames E).all fun test => Text.isWithinDigits (E test) then
        .ok (separator.intercalate ((g.activeNames E).map (plainEntry E) ++
          (g.activeNames E).filterMap (g.snapshot.allocatedEntry? E)))
      else .error .excess := by
  rw [reply_allEntries h, isLoggable_keys hE, ← segment_filter_isLogged,
    ← g.segment_filter_isLogged .allocated, filter_isLogged_keys hE,
    segment_plain hE fun _ ht => ht, segment_allocated hE fun _ ht => ht]

end Assigned

/-! ## One query after another -/

/-- A requested test has its assigned value. -/
theorem reply_requested_assigned (h : g.Resolves)
    (hE : ∀ test, g.valueOf test = if test ∈ g.snapshot.buckets.keys then some (E test) else none)
    (request : RequestedTest) :
    g.reply (.requested g.snapshot request) =
      (g.reply (.payload g.snapshot request.name)).map fun payload =>
        (if request.name ∈ g.snapshot.buckets.keys then E request.name else request.fallbackValue,
          payload.value?) := by
  rw [reply_requested h, hE]
  split <;> rfl

theorem reply_described (test : String) :
    g.reply (.described g.snapshot test) =
      (g.reply (.description g.snapshot test)).map fun description =>
        if description = "" then test else test ++ "-" ++ description := by
  rw [Query.described, reply_bind_pure]
  refine congrArg (Except.map · _) (funext fun description => ?_)
  by_cases hd : description = ""
  · simp [hd]
  · simp [hd]

/-- **All outputs tell the same effective values**: for every snapshot and every hook under which
every test of the snapshot has a value, one assignment of values is told by the queries about one
test, the logged tests, the configurations, the texts and the projection. The texts with values are
written exactly if none of these values has too many digits. -/
theorem outputs_agree (g : Groups) (h : g.Resolves) : ∃ E, g.Tells E := by
  obtain ⟨E, hassigned⟩ := exists_assignment h
  have hE : ∀ test ∈ g.snapshot.buckets.keys, g.valueOf test = some (E test) := by
    intro test hm
    rw [hassigned, if_pos hm]
  have hvalue := reply_value_assigned h hassigned
  refine ⟨E, ?_⟩
  constructor
  case value => exact hvalue
  case isActive_of_default =>
    intro test n default
    rw [Query.isActive, Query.value, reply_bind_pure, reply_bind_pure, h.reply_ask]
    cases g.valueOf test with
    | none => simp [Except.map, beq_eq_decide]
    | some e => simp [Except.map, beq_eq_decide]
  case isActive =>
    intro test n
    rw [Query.isActive, reply_bind_pure, h.reply_ask]
    by_cases hm : test ∈ g.snapshot.buckets.keys
    · simp [hassigned, hm, Except.map, beq_eq_decide]
    · simp [hassigned, hm, Except.map]
  case loggedNames => rw [reply_loggedNames h, filter_isLogged_keys hE]
  case configuration =>
    have hkeys := keys_configured hE
    refine ⟨g.configured, reply_configuration h, hkeys, fun test ht => ?_⟩
    obtain ⟨hm, hactive⟩ := List.mem_filter.1 (hkeys ▸ ht)
    rw [get?_configured, hE test hm, Option.filter_some, if_pos hactive]
  case requestedConfiguration =>
    intro requests
    rw [Query.requestedConfiguration, reply_mapM]
    exact mapM_congr fun request _ => reply_requested_assigned h hassigned request
  case loggingString =>
    intro hdigits names hperm hsorted
    rw [reply_loggingString_assigned hE h hperm hsorted, if_pos (List.all_eq_true.2 hdigits)]
  case allEntries =>
    intro hdigits separator
    refine ⟨_, _, .refl _, .refl _, ?_⟩
    rw [reply_allEntries_assigned hE h, if_pos (List.all_eq_true.2 hdigits)]
  case excess =>
    rintro ⟨test, ht, hexcess⟩
    have hall : ¬ ((g.activeNames E).all fun test => Text.isWithinDigits (E test)) = true := by
      intro hall
      rw [List.all_eq_true.1 hall test ht] at hexcess
      cases hexcess
    constructor
    · rw [reply_loggingString_assigned hE h (sortNames_perm _) (pairwise_sortNames _), if_neg hall]
    · intro separator
      rw [reply_allEntries_assigned hE h, if_neg hall]
  case longString =>
    intro names hperm hsorted
    rw [reply_longString, eq_sortNames hperm hsorted]
    exact congrArg (Except.map _) (mapM_congr fun test _ => reply_described test)
  case projection =>
    intro t ht
    rw [value_of_projection ht]
    refine ⟨g.snapshot.keys_projected _, fun test bucket hb => ?_⟩
    rw [Snapshot.get?_projected] at hb
    obtain ⟨determined, hd, rfl⟩ := Option.map_eq_some_iff.1 hb
    rw [Snapshot.value_projectedBucket, hE test (Dict.mem_keys_of_get? hd), Option.getD_some]

/-- Two allocated tests whose values a hook lowers, so that one of them becomes inactive. -/
def lowered : Groups where
  snapshot := ⟨"", .ofList [("page", .bare 3), ("menu", .bare 0)],
    .ofList [("page", ⟨none, [], "#A1"⟩), ("menu", ⟨none, [], "#A2"⟩)], .empty⟩
  hook := fun _ _ bucket => pure (bucket.value - 1)

theorem resolves_lowered : lowered.Resolves :=
  resolves_of_reply fun test => ⟨_, reply_ask_of_pure _ _ test⟩

/-- The logging string has the lowered value of the one test that is still active, twice. -/
theorem outputs_agree_lowered : lowered.Resolves ∧
    lowered.reply (.loggingString lowered.snapshot) = .ok "page2,#A1:page2" ∧
    lowered.reply (.value "menu" 7) = .ok (-1) := by
  obtain ⟨E, hE⟩ := outputs_agree lowered resolves_lowered
  have hpage : E "page" = 2 :=
    Except.ok.inj ((hE.value "page" 7).symm.trans (by decide +kernel))
  have hmenu : E "menu" = -1 :=
    Except.ok.inj ((hE.value "menu" 7).symm.trans (by decide +kernel))
  have hactive : lowered.activeNames E = ["page"] := by
    show List.filter _ ["page", "menu"] = _
    simp [hpage, hmenu]
  have hdigits : ∀ test ∈ lowered.activeNames E, Text.isWithinDigits (E test) = true := by
    rw [hactive, List.forall_mem_singleton, hpage]
    decide +kernel
  have hplain : plainEntry E "page" = "page2" := by
    rw [plainEntry, hpage]
    decide +kernel
  have hallocated : lowered.snapshot.allocatedEntry? E "page" = some "#A1:page2" := by
    rw [Snapshot.allocatedEntry?, hplain]
    decide +kernel
  refine ⟨resolves_lowered, ?_, ?_⟩
  · rw [hE.loggingString hdigits ["page"] (by rw [hactive]) (List.pairwise_singleton _ _)]
    simp only [List.map_cons, List.map_nil, List.filterMap_cons, List.filterMap_nil, hplain,
      hallocated]
    decide +kernel
  · rw [hE.value, hmenu]
    rfl

/-- **Not every logging string is written**: a hook can add one digit too many to a value. -/
theorem not_outputs_written :
    (shifted (Nat.pow 10 Text.digitLimit - 1) 1).Resolves ∧
    (shifted (Nat.pow 10 Text.digitLimit - 1) 1).reply (.value "t" 0) =
      .ok (Nat.pow 10 Text.digitLimit) ∧
    ∀ text, (shifted (Nat.pow 10 Text.digitLimit - 1) 1).reply
      (.loggingString (shifted (Nat.pow 10 Text.digitLimit - 1) 1).snapshot) ≠ .ok text := by
  have hresolves := resolves_shifted (Nat.pow 10 Text.digitLimit - 1) 1
  have hvalue := valueOf_shifted (Nat.pow 10 Text.digitLimit - 1) 1
  rw [Int.sub_add_cancel] at hvalue
  refine ⟨hresolves, ?_, ?_⟩
  · rw [reply_value hresolves, hvalue, Option.getD_some]
  · intro text htext
    rw [reply_loggingString hresolves, if_neg] at htext
    · cases htext
    · intro hloggable
      have hdigits := List.all_eq_true.1 hloggable "t"
        ((sortNames_perm _).mem_iff.2 (List.mem_singleton_self _))
      rw [hvalue] at hdigits
      exact absurd hdigits (by decide +kernel)

end Groups

end ExperimentGroups
