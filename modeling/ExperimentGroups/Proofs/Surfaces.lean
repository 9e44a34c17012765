import ExperimentGroups.Proofs.Answers
import ExperimentGroups.Proofs.Feedback
import ExperimentGroups.Proofs.Pins

/-!
# The command line and the service agree

A value that is handed over is read as the same value in a document is, so a file and the body of a
message that carry the same value hold the same snapshot. The options of a run carry the overrides
of a request as texts, and those are read back. So the facade of the file is that of the request,
and a run prints what the resolution has, up to what the terminal does with a text: escape sequences
are left out. What runs print of values is read back, as the same values that the resolution holds.

## Main definitions

* `Library.ReadsDecimals`: that a library reads integers as they are written
* `Request.arguments`: the options of a run with the overrides of a request
* `Command.Agrees`: that runs print what a resolution has

## Main results

* `Wire.Shape.read_document`: a value that was read is read alike from a document
* `Request.ResolvesTo.read?_configuration`, `Request.ResolvesTo.ofText_projection`: what is printed
  of a resolution is read back
* `Command.exists_groups_eq`: the overrides of a request as options
* `Command.agrees_with_service`: both surfaces have the same results
-/

namespace ExperimentGroups

/-! ## Values in documents -/

namespace Wire

section Reading

variable {α : Type} {read read' : Json → Checked α}

theorem readItems_mono {i : Nat} {js : List Json} {xs : List α}
    (hread : ∀ j a, read j = .ok a → read' j = .ok a) (h : readItems read i js = .ok xs) :
    readItems read' i js = .ok xs := by
  induction js generalizing i xs with
  | nil => exact h
  | cons j js ih =>
    obtain ⟨⟨x, xs⟩, hboth, rfl⟩ := map_eq_ok_iff.1 h
    obtain ⟨hx, hxs⟩ := both_eq_ok_iff.1 hboth
    refine map_eq_ok_iff.2 ⟨(x, xs), both_eq_ok_iff.2 ⟨?_, ih hxs⟩, rfl⟩
    exact under_eq_ok_iff.2 (hread j x (under_eq_ok_iff.1 hx))

theorem readEntries_mono {ms : List (String × Json)} {es : List (String × α)}
    (hread : ∀ j a, read j = .ok a → read' j = .ok a) (h : readEntries read ms = .ok es) :
    readEntries read' ms = .ok es := by
  induction ms generalizing es with
  | nil => exact h
  | cons m ms ih =>
    obtain ⟨⟨x, es⟩, hboth, rfl⟩ := map_eq_ok_iff.1 h
    obtain ⟨hx, hes⟩ := both_eq_ok_iff.1 hboth
    refine map_eq_ok_iff.2 ⟨(x, es), both_eq_ok_iff.2 ⟨?_, ih hes⟩, rfl⟩
    exact under_eq_ok_iff.2 (hread m.2 x (under_eq_ok_iff.1 hx))

end Reading

theorem doubleOfInt_document {origin : Origin} {n : Int} {x : Double}
    (h : doubleOfInt origin n = .ok x) : doubleOfInt .document n = .ok x := by
  -- Only a value that is handed over has to be within the doubles.
  revert h
  unfold doubleOfInt
  generalize Double.ofInt n = y
  intro h
  cases origin with
  | document => exact h
  | value =>
    cases y with
    | infinite negative => cases h
    | _ => exact h

theorem double_document {j : Json} {x : Double} (h : double .value j = .ok x) :
    double .document j = .ok x := by
  cases j with
  | int n => exact @doubleOfInt_document .value n x h
  | _ => exact h

mutual

/-- **What is read from a value that is handed over** is read from the same value in a document. -/
theorem Shape.read_document {α : Type} : ∀ (s : Shape α) {j : Json} {a : α},
    s.read .value j = .ok a → s.read .document j = .ok a
  | .text _ _, _, _, h => h
  | .choice _ _, _, _, h => h
  | .integer, _, _, h => h
  | .double, j, x, h => orFail_eq_ok_iff.2 (double_document (orFail_eq_ok_iff.1 h))
  | .share, j, x, h => by
    have h := orFail_eq_ok_iff.1 h
    refine orFail_eq_ok_iff.2 ?_
    unfold share at h ⊢
    cases hj : double .value j with
    | error f =>
      rw [hj] at h
      cases h
    | ok y =>
      rw [hj] at h
      rw [double_document hj]
      exact h
  | .anything, _, _, h => h
  | .nullable s, j, a, h => by
    cases j with
    | null => exact h
    | _ =>
      obtain ⟨b, hb, hsome⟩ := map_eq_ok_iff.1 h
      exact map_eq_ok_iff.2 ⟨b, s.read_document hb, hsome⟩
  | .sequence _ s, j, xs, h => by
    cases j with
    | array js => exact readItems_mono (fun j a => s.read_document) h
    | _ => cases h
  | .dict s, j, d, h => by
    cases j with
    | object ms =>
      obtain ⟨es, hes, rfl⟩ := map_eq_ok_iff.1 h
      exact map_eq_ok_iff.2 ⟨es, readEntries_mono (fun j a => s.read_document) hes, rfl⟩
    | _ => cases h
  | .record fields make, j, a, h => by
    cases j with
    | object ms =>
      obtain ⟨b, hb, hmake⟩ := bind_eq_ok_iff.1 h
      exact bind_eq_ok_iff.2 ⟨b, fields.read_document hb, hmake⟩
    | _ => cases h

theorem Fields.read_document {ρ β : Type} : ∀ (fields : Fields ρ β) {ms : List (String × Json)}
    {b : β}, fields.read .value ms = .ok b → fields.read .document ms = .ok b
  | .done, _, _, h => h
  | .field key default get s rest, ms, b, h => by
    obtain ⟨hfield, hrest⟩ := Fields.read_field_eq_ok_iff.1 h
    refine Fields.read_field_eq_ok_iff.2 ⟨?_, rest.read_document hrest⟩
    rcases hfield with ⟨name, j, hfind, hread⟩ | hdefault
    · exact .inl ⟨name, j, hfind, s.read_document hread⟩
    · exact .inr hdefault

end

end Wire

/-! ## Requests -/

/-- **That a library reads decimals**: an integer that is not too long, as it is written. -/
def Library.ReadsDecimals (library : Library) : Prop :=
  ∀ n : Int, Text.isWithinDigits n = true → library.integer? (Text.integerText n) = some n

theorem Library.readsDecimals_standard : standard.ReadsDecimals := by
  intro n h
  simp only [standard, Text.integerText, String.toList_ofList]
  exact Text.integer?_integerChars h

namespace Request

variable {request : Request}

/-- The snapshot of a request is read from its member. -/
theorem read_snapshot {ms : List (String × Json)} {j : Json}
    (h : shape.read .value (.object ms) = .ok request)
    (hmember : Dict.findLast "snapshot" ms = some j) :
    Snapshot.shape.read .value j = .ok request.snapshot := by
  obtain ⟨_, heq, hread, -⟩ := Wire.Shape.exists_of_read_record lawful.2.1 h
  cases heq
  have hfind : (Wire.Key.plain "snapshot").find? ms = some ("snapshot", j) := by
    simp [Wire.Key.find?, Wire.Key.plain, hmember]
  obtain ⟨hfield, -⟩ := Wire.Fields.read_field_eq_ok_iff.1 hread
  rw [hfind] at hfield
  rcases hfield with ⟨_, _, heq, hread⟩ | ⟨hnone, -⟩
  · cases heq
    exact hread
  · cases hnone

/-- The integers of the overrides of a request are not too long. -/
theorem isWithinDigits_overrides {room : Nat} {body : Json}
    (h : shape.read .value body = .ok request) (hbody : Json.Fits (room + 1) body)
    (hroom : 8 ≤ room) :
    Text.isWithinDigits request.holdoutValue = true ∧
      ∀ pin ∈ request.forced.entries, Text.isWithinDigits pin.2 = true := by
  have hheight : shape.height ≤ room + 1 := le_trans (by decide) (Nat.succ_le_succ hroom)
  have hfits := shape.fits_write .full lawful h hbody hheight
  constructor
  · have hvalue := hfits.of_mem (m := ("holdout_value", .int request.holdoutValue))
      (List.mem_append_right _ <| List.mem_append_right _ <| List.mem_append_left _ <|
        List.mem_singleton_self _)
    exact hvalue.isWithinDigits
  · intro pin hpin
    have hforced := hfits.of_mem
      (m := ("forced", (Wire.Shape.dict .integer).write .full request.forced))
      (List.mem_append_right _ <| List.mem_append_right _ <| List.mem_append_right _ <|
        List.mem_append_left _ <| List.mem_singleton_self _)
    exact (hforced.of_mem (List.mem_map.2 ⟨pin, hpin, rfl⟩)).isWithinDigits

/-- The options of a run with the overrides of a request. -/
def arguments (request : Request) (items : List String) : Arguments :=
  ⟨none, request.holdoutTest, some (Text.integerText request.holdoutValue), items⟩

theorem mean_arguments {library : Library} (hreads : library.ReadsDecimals)
    (hvalue : Text.isWithinDigits request.holdoutValue = true) (items : List String) :
    (request.arguments items).Mean library.integer? .print
      ⟨.logging, request.holdoutTest, request.holdoutValue, items⟩ :=
  ⟨.inl ⟨rfl, rfl⟩, rfl, .inr ⟨_, rfl, hreads _ hvalue⟩, rfl⟩

/-! ## Resolutions -/

variable {r : Resolution}

/-- The text of the configuration is read as the configuration. -/
theorem ResolvesTo.read?_configuration (hr : request.ResolvesTo r) {style : Wire.Style}
    (hfits : Json.Fits 200 (Snapshot.shape.write style request.snapshot)) :
    Json.read? .strict (configurationJson r.configuration).render.toList =
      some (configurationJson r.configuration) := by
  have hconfiguration : Json.Fits 200 (configurationJson r.configuration) := by
    rw [hr.configuration_eq]
    refine .object (fun _ => by decide) (List.forall_mem_map.2 fun e he => .int ?_)
    -- What is configured for a test is its effective value, which a rule or the snapshot holds.
    have hvalue := (request.groups.get?_configured e.1).symm.trans
      ((Dict.mem_entries_iff _ e.1 e.2).1 he)
    exact Override.isWithinDigits_of_valueOf request.presentHoldouts hfits
      (Option.filter_eq_some_iff.1 hvalue).1
  rw [Json.toList_render]
  exact Json.read?_chars_of_isFinite hconfiguration (isFinite_configurationJson _)

/-- The configuration for the requested tests is finite if the snapshot is. -/
theorem ResolvesTo.isFinite_requestedConfiguration (hr : request.ResolvesTo r)
    (hfinite : request.snapshot.IsFinite) :
    (requestedConfigurationJson r.requestedConfiguration).isFinite = true := by
  have h := request.presentHoldouts
  -- A payload that is handed out is one of the snapshot, or empty.
  have hpayload : ∀ test, (request.groups.payloadOf test).IsFinite := by
    intro test
    rcases Override.payloadOf_eq h test with hempty | ⟨b, hb, heq⟩
    · rw [show request.groups.payloadOf test = _ from hempty]
      intro j hj
      cases hj
    · rw [show request.groups.payloadOf test = _ from heq]
      have hbucket := hb.of_forall (P := Bucket.IsFinite) hfinite.1 fun e he => (hfinite.2 e he).2
      rw [Bucket.payloadOrEmpty]
      cases hp : b.payload with
      | none =>
        intro j hj
        cases hj
      | some p => exact hbucket p hp
  rw [hr.requestedConfiguration_eq, requestedConfigurationJson, Json.isFinite, Json.itemsFinite_iff,
    Groups.requested, List.map_map, List.forall_mem_map]
  intro test _
  cases hvalue : (request.groups.payloadOf test.name).value? with
  | none => simp [hvalue, Json.isFinite, Json.itemsFinite]
  | some j => simp [hvalue, Json.isFinite, Json.itemsFinite, hpayload test.name j hvalue]

section Projection

variable (hr : request.ResolvesTo r) (hholds : Snapshot.shape.Holds request.snapshot)
  (hfinite : request.snapshot.IsFinite)

include hr hholds hfinite

/-- A finite projection is read back from its document. -/
theorem ResolvesTo.ofText_projection
    (hfits : Json.Fits 200 (Snapshot.shape.write .wire request.snapshot)) :
    Snapshot.ofText (r.projection.toText .wire) = .ok r.projection := by
  have hdescends := hr.descends
  have hfitsProjection : Json.Fits (195 + 5) _ := hdescends.fits_write hfits
  exact Snapshot.ofText_toText (hdescends.holds hholds) hfitsProjection
    (hdescends.isFinite hfinite)

/-- A finite projection is read back from the resolution. -/
theorem ResolvesTo.read_projection :
    Snapshot.shape.read .value (Snapshot.shape.write .full r.projection).dropNonFinite =
      .ok r.projection := by
  have hprojection := hr.descends.holds hholds
  have hprojectionFinite := (Snapshot.shape_isFinite_iff hprojection).2
    (hr.descends.isFinite hfinite)
  rw [Json.dropNonFinite_of_isFinite (Snapshot.shape.isFinite_write .full hprojectionFinite)]
  exact Snapshot.shape.read_write .value .full Snapshot.lawful hprojection hprojectionFinite

end Projection

end Request

/-! ## Runs -/

namespace Command

variable {request : Request} {library : Library}

/-- **The overrides of a request are read back** from the options of a run. -/
theorem exists_groups_eq {items : List String}
    (hnames : ∀ name ∈ request.forced.keys, Override.IsItemName name)
    (hvalues : ∀ pin ∈ request.forced.entries, Text.isWithinDigits pin.2 = true)
    (hitems : items.Perm (request.forced.entries.map Override.item)) :
    ∃ pins, Override.readItems items = .ok pins ∧
      Override.groups request.snapshot
        (Override.plan request.holdoutTest request.holdoutValue pins) = request.groups := by
  obtain ⟨pins, hpins, hget⟩ := Override.exists_readItems hnames hvalues hitems
  refine ⟨pins, hpins, ?_⟩
  rw [Override.groups, Override.hookOf_plan_congr hget]
  rfl

/-- What a run prints of the resolution of a request. -/
theorem print_of_resolvesTo {r : Resolution} (hr : request.ResolvesTo r)
    (settings : Wire.Checked Settings) :
    print request.groups settings .long = .printed (printed r.longString) ∧
      print request.groups settings .logging = .printed (printed r.loggingString) ∧
      print request.groups settings .js = .printed (configurationJson r.configuration).render ∧
      print request.groups settings .json = .printed (r.projection.toText .wire) := by
  have hprint : ∀ {format : Format} {text : String}, format ≠ .groups →
      (∀ separator, request.groups.reply (rendered request.groups separator format) = .ok text) →
        print request.groups settings format = .printed (printed text) := by
    intro format text hformat hreply
    obtain ⟨separator, hprinted⟩ := @exists_print_eq settings format fun h => absurd h hformat
    exact hprinted (hreply separator)
  refine ⟨hprint (by decide) fun _ => hr.longString, hprint (by decide) fun _ => hr.loggingString,
    ?_, ?_⟩
  · rw [← printed_render]
    refine hprint (by decide) fun _ => ?_
    show request.groups.reply (Query.configuration request.snapshot >>= _) = _
    rw [Groups.reply_bind, hr.configuration]
    rfl
  · rw [Snapshot.toText, Wire.Shape.toText, ← printed_render]
    refine hprint (by decide) fun _ => ?_
    show request.groups.reply (Query.projection request.snapshot request.groups.hook >>= _) = _
    rw [Groups.reply_bind, hr.projection]
    rfl

/-- **That runs print what a resolution has**: the two texts as they are printed, a text that is read
as its configuration, and a document of the snapshot that its projection is read as. -/
structure Agrees (ending : Format → Ending) (r : Resolution) : Prop where
  long : ending .long = .printed (printed r.longString)
  logging : ending .logging = .printed (printed r.loggingString)
  js : ∃ text values, ending .js = .printed text ∧
    Json.read? .strict text.toList = some values ∧ r.json.get? "javascript_config" = some values
  json : ∃ text result p, ending .json = .printed text ∧ r.json.get? "proctor_result" = some result ∧
    Snapshot.ofText text = .ok p ∧ Snapshot.shape.read .value result = .ok p

/-- **The command line and the service agree.** A request without lone surrogates and a file carry
the same value for a snapshot, which is finite, and the options of the runs are the overrides of the
request, with the pins in any order. Then the service replies with a resolution, and the runs print
what it has. Both texts are printed as they are if they hold no escape character. The facade of the
file replies with the same configuration for the requested tests. -/
theorem agrees_with_service {content : Content} {ms : List (String × Json)} {j : Json}
    {document : String} {items : List String} (hreads : library.ReadsDecimals)
    (hcontent : content.Carries (.object ms) none)
    (hrequest : Request.shape.read .value (.object ms) = .ok request)
    (hmember : Dict.findLast "snapshot" ms = some j)
    (hdocument : Json.read? .strict document.toList = some j)
    (hfinite : request.snapshot.IsFinite)
    (hnames : ∀ name ∈ request.forced.keys, Override.IsItemName name)
    (hitems : items.Perm (request.forced.entries.map Override.item))
    (settings : Settings) (loaded : Wire.Checked Settings) (name : String) :
    ∃ r g, Service.respond settings "POST" "/groups/resolve" content = .resolved r ∧
      Agrees (fun format => run library loaded .print ((request.arguments items).withFormat format)
        (some ⟨name, document.toUTF8⟩)) r ∧
      (∀ text ∈ [r.longString, r.loggingString],
        Sequence.escape ∉ text.toList → printed text = text) ∧
      groups? library.words ⟨.logging, request.holdoutTest, request.holdoutValue, items⟩
          ⟨name, document.toUTF8⟩ = .ok g ∧
        ∃ pairs, g.reply (.requestedConfiguration g.snapshot request.requestedTests) = .ok pairs ∧
          r.json.get? "requested_config" = some (requestedConfigurationJson pairs) := by
  -- Both surfaces have the same snapshot, since the value is read alike from a document.
  have hread : Snapshot.ofText document = .ok request.snapshot :=
    Wire.Shape.ofText_eq_ok_iff.2
      ⟨j, hdocument, Snapshot.shape.read_document (Request.read_snapshot hrequest hmember)⟩
  have hfits := Wire.Shape.fits_write_of_ofText Snapshot.lawful (by decide) hread .wire
  have hholds := Request.holds_snapshot hrequest
  obtain ⟨hvalue, hvalues⟩ :=
    Request.isWithinDigits_overrides hrequest hcontent.fits (by decide)
  -- The reader of files stops far below the limit of the levels that are written.
  obtain ⟨r, hr, hreply⟩ := Service.exists_resolved hcontent hrequest
    ((Snapshot.shape.freeLevels_le hfits).trans_lt (by decide))
  -- The pins come back in another order, but the facade is that of the request.
  obtain ⟨pins, hpins, hgroups⟩ := exists_groups_eq hnames hvalues hitems
  have hrun : ∀ format, run library loaded .print ((request.arguments items).withFormat format)
      (some ⟨name, document.toUTF8⟩) = print request.groups loaded format := by
    rw [← hgroups]
    exact run_eq_print (Request.mean_arguments hreads hvalue items) hpins hread
  obtain ⟨hlong, hlogging, hjs, hjson⟩ := print_of_resolvesTo hr loaded
  have hrequested :=
    Json.dropNonFinite_of_isFinite (hr.isFinite_requestedConfiguration hfinite)
  refine ⟨r, request.groups, hreply settings, ?_, ?_, ?_, _, hr.requestedConfiguration,
    congrArg some hrequested⟩
  · constructor
    case long => exact (hrun _).trans hlong
    case logging => exact (hrun _).trans hlogging
    case js => exact ⟨_, _, (hrun _).trans hjs, hr.read?_configuration hfits, rfl⟩
    case json =>
      exact ⟨_, _, _, (hrun _).trans hjson, rfl, hr.ofText_projection hholds hfinite hfits,
        hr.read_projection hholds hfinite⟩
  · exact fun text _ hescape => printed_eq_self hescape
  · rw [← hgroups]
    exact groups?_of_ofText hpins hread

/-- The members of a message with a snapshot and two pins, one of them for no test. -/
def pinnedMembers : List (String × Json) :=
  [("snapshot", Snapshot.shape.write .wire laden),
    ("forced", .object [("page", .int 1), ("other", .int (-2))])]

/-- The request that it describes. -/
def pinned : Request := ⟨laden, none, 1, .ofList [("page", 1), ("other", -2)], []⟩

/-- The pins lead to the same results if they are options, in another order. -/
theorem agrees_with_service_pinned : ∃ r,
    Service.respond ⟨.dev, .info, ","⟩ "POST" "/groups/resolve"
        (.value (.object pinnedMembers) none) = .resolved r ∧
      Agrees (fun format => run .standard (.ok ⟨.dev, .info, ","⟩) .print
        ((pinned.arguments ["other=-2", "page=1"]).withFormat format)
        (some ⟨"snapshot.json", (laden.toText .wire).toUTF8⟩)) r := by
  have hfits : Json.Fits 200 (.object pinnedMembers) :=
    @Json.fits_of_read? (Json.object pinnedMembers).chars _ (by decide +kernel)
  have hrequest : Request.shape.read .value (.object pinnedMembers) = .ok pinned := by
    decide +kernel
  have hdocument : Json.read? .strict (laden.toText .wire).toList =
      some (Snapshot.shape.write .wire laden) := by
    rw [Snapshot.toText, Wire.Shape.toText, Json.toList_render]
    decide +kernel
  have hfinite : laden.IsFinite :=
    (Snapshot.shape_isFinite_iff (Request.holds_snapshot hrequest)).1 (by decide +kernel)
  have hitems : ["other=-2", "page=1"].Perm (pinned.forced.entries.map Override.item) := by
    decide +kernel
  obtain ⟨r, _, hreply, hruns, -⟩ := agrees_with_service Library.readsDecimals_standard
    (.value (hfits.mono (by decide))) hrequest rfl hdocument hfinite (by decide +kernel) hitems
    ⟨.dev, .info, ","⟩ (.ok ⟨.dev, .info, ","⟩) "snapshot.json"
  exact ⟨r, hreply, hruns⟩

/-- A file that is not read leaves nothing to print. -/
theorem run_ne_printed {document : String} (hdocument : Json.read? .strict document.toList = none)
    (loaded : Wire.Checked Settings) (a : Arguments) (name text : String) :
    run library loaded .print a (some ⟨name, document.toUTF8⟩) ≠ .printed text := by
  obtain ⟨problems, hproblems⟩ : ∃ problems, Snapshot.ofText document = .error problems := by
    rw [Snapshot.ofText, Wire.Shape.ofText, hdocument]
    exact ⟨_, rfl⟩
  have hgroups : ∀ o, ∃ ending, groups? library.words o ⟨name, document.toUTF8⟩ = .error ending ∧
      ending ≠ .printed text := by
    intro o
    simp only [groups?, fromUTF8?_toUTF8, hproblems]
    cases Override.readItems o.force with
    | error e => exact ⟨_, rfl, by simp⟩
    | ok pins =>
      refine ⟨_, rfl, ?_⟩
      unfold refusal
      split <;> simp
  unfold run
  cases a.options? library.integer? .print with
  | none => simp
  | some o =>
    obtain ⟨ending, hending, hne⟩ := hgroups o
    simpa only [hending] using hne

/-- A test whose bucket has a description with an escape sequence, without overrides. -/
def colored : Request :=
  ⟨⟨"", .ofList [("page", ⟨"on", 1, "\x1b[31mred", none⟩)], .empty, .empty⟩, none, 1, .empty, []⟩

/-- Its snapshot as a value. -/
def coloredJson : Json := Service.singleSnapshot "description" (.text "\x1b[31mred")

/-- A test whose bucket has a payload with arrays within one another, without overrides. -/
def deep : Request :=
  ⟨⟨"", .ofList [("page", ⟨"on", 1, "", some (Contract.deep 200)⟩)], .empty, .empty⟩, none, 1,
    .empty, []⟩

/-- Its snapshot as a value. -/
def deepJson : Json := Service.singleSnapshot "payload" (Service.deepPayload 200)

/-- **The command line and the service do not always agree**: an escape sequence in a description is
not printed, a file with a payload that nests too deeply for the reader of files is refused, and the
service cannot write a description with a lone surrogate. -/
theorem not_agrees_with_service :
    (∃ j request, Content.Carries (.value (.object [("snapshot", j)]) none)
        (.object [("snapshot", j)]) none ∧
      Request.shape.read .value (.object [("snapshot", j)]) = .ok request ∧
      request.snapshot.IsFinite ∧ Json.read? .strict j.render.toList = some j ∧
      ∀ settings loaded name, ∃ r text,
        Service.respond settings "POST" "/groups/resolve"
          (.value (.object [("snapshot", j)]) none) = .resolved r ∧
        run .standard loaded .print ((request.arguments []).withFormat .long)
          (some ⟨name, j.render.toUTF8⟩) = .printed text ∧ text ≠ r.longString) ∧
    (∃ j request, Content.Carries (.value (.object [("snapshot", j)]) none)
        (.object [("snapshot", j)]) none ∧
      Request.shape.read .value (.object [("snapshot", j)]) = .ok request ∧
      request.snapshot.IsFinite ∧
      ∀ settings loaded name, ∃ r,
        Service.respond settings "POST" "/groups/resolve"
          (.value (.object [("snapshot", j)]) none) = .resolved r ∧
        ∀ format text, run .standard loaded .print ((request.arguments []).withFormat format)
          (some ⟨name, j.render.toUTF8⟩) ≠ .printed text) ∧
    ∃ body block request, Content.Carries (.text Service.lone) body block ∧
      Request.shape.read .value body = .ok request ∧ request.snapshot.IsFinite ∧
      ∀ settings, (Service.respond settings "POST" "/groups/resolve" (.text Service.lone)).status =
        400 := by
  refine ⟨?_, ?_, ?_⟩
  · have hcontent : Content.Carries (.value (.object [("snapshot", coloredJson)]) none)
        (.object [("snapshot", coloredJson)]) none := .value (Service.fits_single .text)
    have hrequest : Request.shape.read .value (.object [("snapshot", coloredJson)]) =
        .ok colored := by
      decide +kernel
    have hdocument : Json.read? .strict coloredJson.render.toList = some coloredJson := by
      rw [Json.toList_render]
      decide +kernel
    have hread : Snapshot.ofText coloredJson.render = .ok colored.snapshot :=
      Wire.Shape.ofText_eq_ok_iff.2
        ⟨_, hdocument, Snapshot.shape.read_document (Request.read_snapshot hrequest rfl)⟩
    obtain ⟨r, hr, hreply⟩ := Service.exists_resolved hcontent hrequest (by decide +kernel)
    have hstring : r.longString = "page-\x1b[31mred" :=
      Except.ok.inj (hr.longString.symm.trans (by decide +kernel))
    refine ⟨coloredJson, colored, hcontent, hrequest,
      (Snapshot.shape_isFinite_iff (Request.holds_snapshot hrequest)).1 (by decide +kernel),
      hdocument, fun settings loaded name => ⟨r, _, hreply settings,
        (run_eq_print (@Request.mean_arguments colored .standard Library.readsDecimals_standard
          Request.isWithinDigits_one []) rfl hread .long).trans (print_of_resolvesTo hr loaded).1,
        ?_⟩⟩
    rw [hstring]
    decide +kernel
  · have hcontent : Content.Carries (.value (.object [("snapshot", deepJson)]) none)
        (.object [("snapshot", deepJson)]) none :=
      .value (Service.fits_single_deepPayload (by decide))
    have hrequest : Request.shape.read .value (.object [("snapshot", deepJson)]) = .ok deep := by
      decide +kernel
    have hdocument : Json.read? .strict deepJson.render.toList = none := by
      rw [Json.toList_render]
      decide +kernel
    obtain ⟨r, -, hreply⟩ := Service.exists_resolved hcontent hrequest (by decide +kernel)
    exact ⟨deepJson, deep, hcontent, hrequest,
      (Snapshot.shape_isFinite_iff (Request.holds_snapshot hrequest)).1 (by decide +kernel),
      fun settings loaded name => ⟨r, hreply settings, fun format text =>
        run_ne_printed hdocument loaded _ name text⟩⟩
  · exact ⟨_, _, _, Service.carries_lone, Service.read_lone,
      (Snapshot.shape_isFinite_iff (Request.holds_snapshot Service.read_lone)).1 (by decide +kernel),
      Service.status_lone⟩

end Command

end ExperimentGroups
