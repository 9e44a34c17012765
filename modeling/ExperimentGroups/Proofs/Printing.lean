import ExperimentGroups.Command.Run
import ExperimentGroups.Proofs.Descent

/-!
# What is printed

The text of a JSON value holds no control character, so it is printed as it is. Under rules, every
format of a snapshot from a document is printed, and the projection without rules is printed like
the snapshot with them.

## Main results

* `Json.all_chars`: the text of a value holds no control character
* `Command.printed_eq_self`, `Command.printed_render`: so it is printed as it is
* `Command.exists_reply_rendered`: every format is rendered
* `Command.reply_rendered_projected`: a projection is rendered like the snapshot
* `Command.print_projected`: and printed like it
-/

namespace ExperimentGroups

/-! ## No control characters -/

namespace Json

/-- Whether a character is no control character below the blank. -/
def isAboveControls (c : Char) : Bool := 0x20 ≤ c.toNat

theorem isAboveControls_of_isWordChar {c : Char} (h : isWordChar c = true) :
    isAboveControls c = true := by
  have hcontrol : ∀ n < 0x20, isWordChar (Char.ofNat n) = false := by decide
  by_contra hbelow
  have hc := hcontrol c.toNat (by simpa [isAboveControls] using hbelow)
  rw [Char.ofNat_toNat, h] at hc
  cases hc

theorem all_hex (width n : Nat) : (Text.hex width n).all isAboveControls = true := by
  have hdigit : ∀ d < 16, isAboveControls (Nat.digitChar d) = true := by decide
  induction width generalizing n with
  | zero => rfl
  | succ width ih =>
    rw [Text.hex, List.all_append, ih, Bool.true_and, List.all_cons, Text.hexDigit,
      hdigit _ (Nat.mod_lt n (by decide))]
    rfl

theorem all_escapeChar (c : Char) : (escapeChar c).all isAboveControls = true := by
  unfold escapeChar
  split_ifs with _ _ _ _ _ _ _ hcontrol
  all_goals try rfl
  · exact all_hex 4 c.toNat
  · simpa [isAboveControls] using hcontrol

theorem all_textChars (s : String) : (textChars s).all isAboveControls = true := by
  have htext : (s.toList.flatMap escapeChar).all isAboveControls = true := by
    rw [List.all_flatMap, List.all_eq_true]
    exact fun c _ => all_escapeChar c
  rw [textChars, List.all_cons, List.all_append, htext]
  rfl

theorem all_doubleChars (x : Double) : (doubleChars x).all isAboveControls = true := by
  cases x with
  | finite negative units held =>
    have hwords : ∀ c ∈ (Double.finite negative units held).text .json, isWordChar c = true :=
      fun c hc => isWordChar_of_mem_text hc
    exact List.all_eq_true.2 fun c hc => isAboveControls_of_isWordChar (hwords c hc)
  | _ => rfl

mutual

/-- **The text of a value holds no control character.** -/
theorem all_chars : ∀ j : Json, j.chars.all isAboveControls = true
  | .null => rfl
  | .bool true => rfl
  | .bool false => rfl
  | .int n => List.all_eq_true.2 fun c hc =>
    isAboveControls_of_isWordChar (isWordChar_of_mem_integerChars hc)
  | .double x => all_doubleChars x
  | .text s => all_textChars s
  | .array [] => rfl
  | .array (x :: xs) => by
    rw [chars, List.all_cons, List.all_append, all_chars x, all_itemChars xs]
    rfl
  | .object [] => rfl
  | .object ((k, x) :: ms) => by
    rw [chars, List.all_cons, List.all_append, all_textChars, List.all_cons, List.all_append,
      all_chars x, all_memberChars ms]
    rfl

theorem all_itemChars : ∀ xs : List Json, (itemChars xs).all isAboveControls = true
  | [] => rfl
  | x :: xs => by
    rw [itemChars, List.all_cons, List.all_append, all_chars x, all_itemChars xs]
    rfl

theorem all_memberChars :
    ∀ ms : List (String × Json), (memberChars ms).all isAboveControls = true
  | [] => rfl
  | (k, x) :: ms => by
    rw [memberChars, List.all_cons, List.all_append, all_textChars, List.all_cons,
      List.all_append, all_chars x, all_memberChars ms]
    rfl

end

theorem not_mem_chars {c : Char} (h : isAboveControls c = false) (j : Json) : c ∉ j.chars :=
  fun hc => absurd (List.all_eq_true.1 j.all_chars c hc) (by simp [h])

end Json

/-! ## Printing -/

namespace Command

/-- A text without escape characters is printed as it is. -/
theorem printed_eq_self {text : String} (h : Sequence.escape ∉ text.toList) : printed text = text := by
  rw [printed, Sequence.strip_eq_self h, String.ofList_toList]

/-- **The text of a JSON value is printed as it is.** -/
theorem printed_render (j : Json) : printed j.render = j.render := by
  apply printed_eq_self
  rw [Json.toList_render]
  exact Json.not_mem_chars (c := Sequence.escape) rfl j

/-- What is rendered is printed; only the entries need settings, for their separator. -/
theorem print_of_reply {settings : Wire.Checked Settings} {format : Format} {separator : String}
    (hseparator : format = .groups →
      ∃ held : Settings, settings = .ok held ∧ separator = held.separator)
    {g : Groups} {text : String} (hreply : g.reply (rendered g separator format) = .ok text) :
    print g settings format = .printed (printed text) := by
  obtain ⟨log, hrun⟩ := Groups.run_of_reply hreply
  cases format with
  | groups =>
    obtain ⟨held, rfl, rfl⟩ := hseparator rfl
    simp only [print, hrun]
  | _ =>
    -- The separator is not looked at.
    simp only [print, rendered] at hrun ⊢
    simp only [hrun]

theorem exists_print_eq {settings : Wire.Checked Settings} {format : Format}
    (h : format = .groups → ∃ held, settings = .ok held) :
    ∃ separator, ∀ {g : Groups} {text : String},
      g.reply (rendered g separator format) = .ok text →
        print g settings format = .printed (printed text) := by
  by_cases hformat : format = .groups
  · obtain ⟨held, hheld⟩ := h hformat
    exact ⟨held.separator, print_of_reply fun _ => ⟨held, hheld, rfl⟩⟩
  · exact ⟨"", print_of_reply fun heq => absurd heq hformat⟩

section Rules

open Override

variable {s : Snapshot} {plan? : Option (Plan Override)}
  (h : (presentHoldouts s (rules plan?)).Subsingleton)

include h

theorem isLoggable_groups {style : Wire.Style} {room : Nat}
    (hfits : Json.Fits (room + 5) (Snapshot.shape.write style s)) (names : List String) :
    (groups s plan?).isLoggable names = true := by
  refine List.all_eq_true.2 fun test _ => ?_
  cases he : (groups s plan?).valueOf test with
  | none => rfl
  | some e =>
    have hdigits := isWithinDigits_of_valueOf h hfits he
    by_cases hlogged : 0 ≤ e <;> simp [Option.filter, hlogged, hdigits]

theorem exists_reply_allEntries {style : Wire.Style} {room : Nat}
    (hfits : Json.Fits (room + 5) (Snapshot.shape.write style s)) (separator : String) :
    ∃ text, (groups s plan?).reply (.allEntries s separator) = .ok text :=
  ⟨_, (Groups.reply_allEntries (resolves h) separator).trans
    (if_pos (isLoggable_groups h hfits _))⟩

/-- In the JSON format the document of the projection is rendered. -/
theorem reply_rendered_json (separator : String) :
    (groups s plan?).reply (rendered (groups s plan?) separator .json) =
      .ok ((s.projected (groups s plan?).valueOf).toText .wire) := by
  show (groups s plan?).reply (Query.projection s (hookOf plan?) >>= _) = _
  rw [Groups.reply_bind, reply_projection_rules h]
  rfl

/-- **Every format is rendered** of a snapshot within the limits of a reader. -/
theorem exists_reply_rendered {style : Wire.Style} {room : Nat}
    (hfits : Json.Fits (room + 5) (Snapshot.shape.write style s)) (separator : String)
    (format : Format) :
    ∃ text, (groups s plan?).reply (rendered (groups s plan?) separator format) = .ok text := by
  cases format with
  | long =>
    obtain ⟨parts, hparts⟩ := exists_mapM_described h (sortNames s.buckets.keys)
    have hlong : (groups s plan?).reply (.longString s) = _ := Groups.reply_longString _
    exact ⟨_, hlong.trans (congrArg (Except.map _) hparts)⟩
  | logging =>
    exact ⟨_, (Groups.reply_loggingString (resolves h)).trans
      (if_pos (isLoggable_groups h hfits _))⟩
  | groups => exact exists_reply_allEntries h hfits separator
  | js =>
    have hvalues : (groups s plan?).reply (.configuration s) = _ :=
      Groups.reply_configuration (resolves h)
    refine ⟨(configurationJson (groups s plan?).configured).render, ?_⟩
    show (groups s plan?).reply (Query.configuration s >>= _) = _
    rw [Groups.reply_bind, hvalues]
    rfl
  | json => exact ⟨_, reply_rendered_json h separator⟩

/-- **The projection is rendered like the snapshot**: without any rules, it has what the rules
wrote. -/
theorem reply_rendered_projected (separator : String) (format : Format) :
    (⟨s.projected (groups s plan?).valueOf, .keep⟩ : Groups).reply
        (rendered ⟨s.projected (groups s plan?).valueOf, .keep⟩ separator format) =
      (groups s plan?).reply (rendered (groups s plan?) separator format) := by
  have hinquiry : ∀ {α : Type} (i : Inquiry α),
      (⟨s.projected (groups s plan?).valueOf, .keep⟩ : Groups).reply
          (i.query (s.projected (groups s plan?).valueOf)) =
        (groups s plan?).reply (i.query s) :=
    fun i => Groups.reply_inquiry_projected (resolves h) (projectable h) i
  cases format with
  | long => exact hinquiry .longString
  | logging => exact hinquiry .loggingString
  | groups => exact hinquiry (.allEntries separator)
  | js =>
    have hvalues := hinquiry .configuration
    show Groups.reply _ (Query.configuration _ >>= _) = (groups s plan?).reply (_ >>= _)
    rw [Groups.reply_bind, Groups.reply_bind,
      show Groups.reply _ (Query.configuration _) = _ from hvalues]
    rfl
  | json =>
    obtain ⟨log, hkeep⟩ := Groups.projection_keep (s.projected (groups s plan?).valueOf)
    have hreply : Groups.reply ⟨s.projected (groups s plan?).valueOf, .keep⟩
        (.projection (s.projected (groups s plan?).valueOf) .keep) = _ :=
      congrArg (Except.map Traced.value) hkeep
    show Groups.reply _ (Query.projection _ _ >>= _) = (groups s plan?).reply (_ >>= _)
    rw [Groups.reply_bind, Groups.reply_bind]
    show Groups.reply _ (Query.projection (s.projected (groups s plan?).valueOf) .keep) >>= _ =
      (groups s plan?).reply (.projection s (hookOf plan?)) >>= _
    rw [hreply, reply_projection_rules h]
    rfl

/-- **The projection is printed like the snapshot**, and every format is printed; only the entries
need settings, for their separator. -/
theorem print_projected {style : Wire.Style}
    (hfits : Json.Fits 200 (Snapshot.shape.write style s)) (settings : Wire.Checked Settings)
    (format : Format) :
    print ⟨s.projected (groups s plan?).valueOf, .keep⟩ settings format =
        print (groups s plan?) settings format ∧
      ((format = .groups → ∃ held, settings = .ok held) →
        ∃ text, print (groups s plan?) settings format = .printed text) := by
  have hprinted : (format = .groups → ∃ held, settings = .ok held) →
      ∃ text, print (groups s plan?) settings format = .printed text ∧
        print ⟨s.projected (groups s plan?).valueOf, .keep⟩ settings format = .printed text := by
    intro hsettings
    obtain ⟨separator, hprint⟩ := exists_print_eq hsettings
    obtain ⟨text, htext⟩ := exists_reply_rendered h hfits separator format
    exact ⟨printed text, hprint htext,
      hprint ((reply_rendered_projected h separator format).trans htext)⟩
  constructor
  · by_cases hsettings : format = .groups → ∃ held, settings = .ok held
    · obtain ⟨text, hs, hp⟩ := hprinted hsettings
      exact hp.trans hs.symm
    · obtain ⟨rfl, hinvalid⟩ := Classical.not_imp.1 hsettings
      cases settings with
      | error problems => rfl
      | ok held => exact absurd ⟨held, rfl⟩ hinvalid
  · intro hsettings
    obtain ⟨text, hs, -⟩ := hprinted hsettings
    exact ⟨text, hs⟩

end Rules

end Command

end ExperimentGroups
