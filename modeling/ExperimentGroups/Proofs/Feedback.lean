import ExperimentGroups.Proofs.Printing

/-!
# What is printed is read again

A run on the document of a snapshot prints the snapshot under the overrides of its options. What it
prints in the JSON format is the document of the projection. It is a snapshot again, equal to the
projection, exactly if the projection is finite. A run on it without any rules then prints in every
format what the run on the snapshot with the rules prints.

## Main definitions

* `Format.name`, `Arguments.withFormat`: the options for another format
* `Arguments.Mean`: what the options mean

## Main results

* `Snapshot.exists_ofText_iff`: only a finite snapshot is read again from its document
* `Arguments.options?_eq_some_iff`: options that mean something
* `Command.run_eq_print`: the facade that a run prints
* `Command.feedback`: a run on the document that another run has printed
-/

namespace ExperimentGroups

/-! ## Documents of snapshots -/

namespace Snapshot

variable {s p : Snapshot}

/-- What descends from a finite snapshot is finite. -/
theorem Descends.isFinite (hs : Descends s.Described s p) (h : s.IsFinite) : p.IsFinite :=
  ⟨hs.forall_bucket h.1 fun e he => (h.2 e he).2, hs.definitions ▸ h.2⟩

theorem ofText_toText (hholds : shape.Holds s) (hfits : Json.Fits 200 (shape.write .wire s))
    (hfinite : s.IsFinite) : ofText (s.toText .wire) = .ok s :=
  (Wire.Shape.ofText_toText Snapshot.lawful hholds ((shape_isFinite_iff hholds).2 hfinite) hfits).2

/-- **Only a finite snapshot is read again** from its document, as one that is equal to it. -/
theorem exists_ofText_iff (hholds : shape.Holds s)
    (hfits : Json.Fits 200 (shape.write .wire s)) :
    (∃ q, ofText (s.toText .wire) = .ok q ∧ s.sameValue q = true) ↔ s.IsFinite := by
  constructor
  · rintro ⟨q, hq, hsame⟩
    obtain ⟨j, hj, hread⟩ := Wire.Shape.ofText_toText_eq_ok_iff.1 hq
    rw [Json.read?_chars hfits.dropNonFinite, Option.some.injEq] at hj
    -- What is not finite was written as a null, so nothing that is not finite is read.
    subst hj
    have hfinite := shape.isFinite_of_read_write .document .wire Snapshot.lawful hread
    have hq := (shape_isFinite_iff (shape.holds_of_read Snapshot.lawful hread)).1 hfinite
    exact isFinite_of_sameValue hsame hq
  · intro hfinite
    exact ⟨s, ofText_toText hholds hfits hfinite, sameValue_self hholds hfinite⟩

end Snapshot

/-! ## Options -/

/-- The word of a format. -/
def Format.name : Format → String
  | .long => "long"
  | .logging => "logging"
  | .groups => "groups"
  | .js => "js"
  | .json => "json"

theorem Format.ofName?_eq_some_iff {word : String} {format : Format} :
    Format.ofName? word = some format ↔ word = format.name := by
  constructor
  · intro h
    unfold Format.ofName? at h
    split at h <;> cases h <;> rfl
  · rintro rfl
    cases format <;> rfl

namespace Arguments

variable {integer? : String → Option Int} {verb : Verb} {a : Arguments} {o : Options}

/-- The same options with another format. -/
def withFormat (a : Arguments) (format : Format) : Arguments :=
  { a with format := some format.name }

theorem format?_eq_some_iff {format : Format} : a.format? verb = some format ↔
    a.format = .none ∧ format = .logging ∨ verb = .print ∧ a.format = some format.name := by
  unfold format?
  split
  · next h => simp [h, eq_comm]
  · next name h => simp [h, Format.ofName?_eq_some_iff]
  · next name h => simp [h]

theorem holdoutValue?_eq_some_iff {value : Int} : a.holdoutValue? integer? = some value ↔
    a.holdoutValue = .none ∧ value = 1 ∨
      ∃ word, a.holdoutValue = some word ∧ integer? word = some value := by
  unfold holdoutValue?
  split
  · next h => simp [h, eq_comm]
  · next word h => simp [h]

/-- **What the options mean**, one by one, to a reader of integers. -/
structure Mean (integer? : String → Option Int) (verb : Verb) (a : Arguments) (o : Options) :
    Prop where
  format : a.format = .none ∧ o.format = .logging ∨ verb = .print ∧ a.format = some o.format.name
  holdout : o.holdout = a.holdout
  holdoutValue : a.holdoutValue = .none ∧ o.holdoutValue = 1 ∨
    ∃ word, a.holdoutValue = some word ∧ integer? word = some o.holdoutValue
  force : o.force = a.force

/-- **Options that mean something** are those that nothing is wrong with. -/
theorem options?_eq_some_iff : a.options? integer? verb = some o ↔ a.Mean integer? verb o := by
  constructor
  · intro h
    obtain ⟨format, hformat, h⟩ := Option.bind_eq_some_iff.1 h
    obtain ⟨value, hvalue, h⟩ := Option.bind_eq_some_iff.1 h
    cases h
    exact ⟨format?_eq_some_iff.1 hformat, rfl, holdoutValue?_eq_some_iff.1 hvalue, rfl⟩
  · rintro ⟨hformat, hholdout, hvalue, hforce⟩
    refine Option.bind_eq_some_iff.2 ⟨_, format?_eq_some_iff.2 hformat, ?_⟩
    refine Option.bind_eq_some_iff.2 ⟨_, holdoutValue?_eq_some_iff.2 hvalue, ?_⟩
    rw [← hholdout, ← hforce]
    rfl

theorem Mean.withFormat (h : a.Mean integer? .print o) (format : Format) :
    (a.withFormat format).Mean integer? .print { o with format } :=
  ⟨.inr ⟨rfl, rfl⟩, h.holdout, h.holdoutValue, h.force⟩

end Arguments

/-! ## Runs -/

namespace Command

open Override

variable {library : Library} {settings : Wire.Checked Settings} {a : Arguments} {o : Options}
  {pins : Dict Int} {name document : String} {s : Snapshot}

theorem fromUTF8?_toUTF8 (document : String) :
    String.fromUTF8? document.toUTF8 = some document :=
  dif_pos document.isValidUTF8

/-- The facade of a file that holds the document of a snapshot. -/
theorem groups?_of_ofText (hpins : readItems o.force = .ok pins)
    (hdocument : Snapshot.ofText document = .ok s) :
    groups? library.words o ⟨name, document.toUTF8⟩ =
      .ok (groups s (Override.plan o.holdout o.holdoutValue pins)) := by
  simp only [groups?, hpins, fromUTF8?_toUTF8, hdocument]
  rfl

/-- **What a run prints**: the facade of the snapshot under the overrides of the options. -/
theorem run_eq_print (h : a.Mean library.integer? .print o) (hpins : readItems o.force = .ok pins)
    (hdocument : Snapshot.ofText document = .ok s) (format : Format) :
    run library settings .print (a.withFormat format) (some ⟨name, document.toUTF8⟩) =
      print (groups s (Override.plan o.holdout o.holdoutValue pins)) settings format := by
  have hoptions := Arguments.options?_eq_some_iff.2 (h.withFormat format)
  have hgroups := @groups?_of_ofText library { o with format } pins name document s hpins hdocument
  simp only [run, hoptions, hgroups]

/-- **A run on the document that another run has printed.** A run on the document of a snapshot
prints in every format the snapshot under the overrides of the options; only the entries need
settings, for their separator. In the JSON format this is the document of the projection. This is
read again, with or without a line feed at its end, as a snapshot that is equal to the projection
exactly if the projection holds no NaN and no infinity. Then a run on it without any rules ends in
every format as the first run does, so it prints the same text, in the JSON format the document
itself. -/
theorem feedback (h : a.Mean library.integer? .print o) (hpins : readItems o.force = .ok pins)
    (hdocument : Snapshot.ofText document = .ok s) :
    (∀ format separator, (format = .groups →
        ∃ held : Settings, settings = .ok held ∧ separator = held.separator) →
      ∃ text, (groups s (Override.plan o.holdout o.holdoutValue pins)).reply (rendered
          (groups s (Override.plan o.holdout o.holdoutValue pins)) separator format) = .ok text ∧
        run library settings .print (a.withFormat format) (some ⟨name, document.toUTF8⟩) =
          .printed (printed text)) ∧
    ∃ p log, (groups s (Override.plan o.holdout o.holdoutValue pins)).projection = .ok ⟨p, log⟩ ∧
      run library settings .print (a.withFormat .json) (some ⟨name, document.toUTF8⟩) =
        .printed (p.toText .wire) ∧
      ∀ written ∈ [p.toText .wire, p.toText .wire ++ "\n"],
        ((∃ q, Snapshot.ofText written = .ok q ∧ p.sameValue q = true) ↔ p.IsFinite) ∧
        (p.IsFinite → Snapshot.ofText written = .ok p ∧
          ∀ other format,
            run library settings .print (Arguments.none.withFormat format)
                (some ⟨other, written.toUTF8⟩) =
              run library settings .print (a.withFormat format)
                (some ⟨name, document.toUTF8⟩)) := by
  have hrun : ∀ format,
      run library settings .print (a.withFormat format) (some ⟨name, document.toUTF8⟩) = _ :=
    run_eq_print h hpins hdocument
  have hpresent := presentHoldouts_plan s o.holdout o.holdoutValue pins
  generalize Override.plan o.holdout o.holdoutValue pins = plan? at hpresent hrun ⊢
  obtain ⟨_, -, hread⟩ := Wire.Shape.ofText_eq_ok_iff.1 hdocument
  have hfits := Wire.Shape.fits_write_of_ofText Snapshot.lawful (by decide) hdocument .wire
  -- The projection keeps the conditions and the limits of the snapshot.
  have hdescends := descends_projected hpresent
  have hpholds := hdescends.holds (Snapshot.shape.holds_of_read Snapshot.lawful hread)
  have hpfits : Json.Fits (195 + 5) _ := hdescends.fits_write hfits
  obtain ⟨log, hlog⟩ := exists_projection_rules hpresent
  refine ⟨fun format separator hseparator => ?_, _, log, hlog, ?_, fun written hwritten => ?_⟩
  · obtain ⟨text, htext⟩ := exists_reply_rendered hpresent hfits separator format
    exact ⟨text, htext, (hrun format).trans (print_of_reply hseparator htext)⟩
  · have hprinted : print (groups s plan?) settings .json = _ :=
      @print_of_reply settings .json "" (fun hformat => by cases hformat) _ _
        (reply_rendered_json hpresent "")
    rw [hrun, hprinted]
    exact congrArg Ending.printed (printed_render _)
  · -- The line feed that the console adds changes nothing for the reader.
    have hsame : ∀ {q}, Snapshot.ofText written = .ok q ↔
        Snapshot.ofText ((s.projected (groups s plan?).valueOf).toText .wire) = .ok q := by
      intro q
      rcases List.mem_pair.1 hwritten with rfl | rfl
      · rfl
      · exact Wire.Shape.ofText_append_lineFeed _
    simp only [hsame]
    refine ⟨Snapshot.exists_ofText_iff hpholds hpfits, fun hfinite => ?_⟩
    have hback := Snapshot.ofText_toText hpholds hpfits hfinite
    refine ⟨hback, fun other format => ?_⟩
    -- Without options there is no rule, so the second run prints the projection as it is.
    have hnone : Arguments.none.Mean library.integer? .print ⟨.logging, none, 1, []⟩ :=
      ⟨.inl ⟨rfl, rfl⟩, rfl, .inl ⟨rfl, rfl⟩, rfl⟩
    have hagain := @run_eq_print library settings .none _ .empty other written _ hnone rfl
      (hsame.2 hback) format
    rw [hrun]
    exact hagain.trans (print_projected hpresent hfits settings format).1

/-- A snapshot of a test in a bare bucket; of the buckets that are declared, another has a payload. -/
def laden : Snapshot :=
  ⟨"7", .ofList [("page", .bare 0)], .empty,
    .ofList [("page", { declaring [0] with buckets := [.bare 0, Contract.mixed] })]⟩

/-- A run that pins the test to the bucket with the payload is repeated without the pin. -/
theorem feedback_laden : ∃ document text,
    run .standard (.ok ⟨.dev, .info, ","⟩) .print ⟨some "json", none, none, ["page=1"]⟩
        (some ⟨"snapshot.json", (laden.toText .wire).toUTF8⟩) = .printed document ∧
      run .standard (.ok ⟨.dev, .info, ","⟩) .print ⟨some "groups", none, none, ["page=1"]⟩
        (some ⟨"snapshot.json", (laden.toText .wire).toUTF8⟩) = .printed text ∧
      run .standard (.ok ⟨.dev, .info, ","⟩) .print ⟨some "groups", none, none, []⟩
        (some ⟨"printed.json", (document ++ "\n").toUTF8⟩) = .printed text := by
  have hread : Snapshot.ofText (laden.toText .wire) = .ok laden :=
    Wire.Shape.ofText_toText_eq_ok_iff.2
      ⟨Snapshot.shape.write .wire laden, by decide +kernel, by decide +kernel⟩
  have hpins : readItems ["page=1"] = .ok (.ofList [("page", 1)]) := by decide +kernel
  have hmean : Arguments.Mean Library.standard.integer? .print ⟨none, none, none, ["page=1"]⟩
      ⟨.logging, none, 1, ["page=1"]⟩ := ⟨.inl ⟨rfl, rfl⟩, rfl, .inl ⟨rfl, rfl⟩, rfl⟩
  obtain ⟨hprinted, p, log, hp, hdocument, hback⟩ :=
    @feedback .standard (.ok ⟨.dev, .info, ","⟩) _ _ _ "snapshot.json" _ _ hmean hpins hread
  have h := presentHoldouts_plan laden none 1 (.ofList [("page", 1)])
  have hfinite : p.IsFinite := by
    obtain ⟨_, hlog⟩ := exists_projection_rules h
    cases hp.symm.trans hlog
    refine (descends_projected h).isFinite ((Snapshot.shape_isFinite_iff ?_).1 (by decide +kernel))
    obtain ⟨_, -, hheld⟩ := Wire.Shape.ofText_eq_ok_iff.1 hread
    exact Snapshot.shape.holds_of_read Snapshot.lawful hheld
  obtain ⟨text, -, htext⟩ := hprinted .groups "," fun _ => ⟨_, rfl, rfl⟩
  obtain ⟨-, hrepeated⟩ := hback (p.toText .wire ++ "\n") (by simp)
  exact ⟨_, _, hdocument, htext, ((hrepeated hfinite).2 "printed.json" .groups).trans htext⟩

end Command

end ExperimentGroups
