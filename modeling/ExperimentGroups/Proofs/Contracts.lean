import ExperimentGroups.Proofs.Limits
import ExperimentGroups.Snapshot

/-!
# Contracts are read back from what they write

The contracts are the types that documents describe. Their shapes are lawful, so a contract without
NaN and infinities is read back as it is from its wire form and from its document in every style.
Two limits are in the way: free-form parts that nest too deeply are not written at all, and a
document beyond the limits of the reader is not read.

## Main definitions

* `Contract`: the contracts, by their types
* `Wire.Shape.IsValidated`: values that were read from some input
* `Wire.Shape.FromWire`, `Wire.Shape.FromText`: that a value is read back

## Main results

* `Contract.lawful`: the shapes of contracts are lawful
* `Wire.Shape.fromWire_iff`, `Wire.Shape.fromText_iff`: nothing but the limits is in the way
* `Contract.read_back`: every contract is read back, within the limits
-/

namespace ExperimentGroups

namespace Wire

/-! ## Lawful records -/

section Fields

variable {ρ α β : Type} {key : Key} {get : ρ → α} {s : Shape α} {rest : Fields ρ β}

/-- A field that is never null. -/
theorem Fields.lawful_solid {default : Option α} (hs : s.Lawful) (hsolid : s.isSolid = true)
    (hdefault : ∀ a, default = some a → s.IsDefault a) (hrest : rest.Lawful) :
    (Fields.field key default get s rest).Lawful :=
  And.intro hs (And.intro hdefault (And.intro
    (fun style a h => absurd h (Shape.write_ne_null hsolid style a)) hrest))

theorem Fields.lawful_required (hs : s.Lawful) (hsolid : s.isSolid = true) (hrest : rest.Lawful) :
    (Fields.field key none get s rest).Lawful :=
  lawful_solid hs hsolid (fun _ h => nomatch h) hrest

theorem Fields.lawful_default {a : α} (hs : s.Lawful) (hsolid : s.isSolid = true)
    (hdefault : s.IsDefault a) (hrest : rest.Lawful) :
    (Fields.field key (some a) get s rest).Lawful :=
  lawful_solid hs hsolid (fun _ h => Option.some.inj h ▸ hdefault) hrest

/-- A field that is null unless there is a value. -/
theorem Fields.lawful_nullable {get : ρ → Option α} (hs : s.Lawful) (hsolid : s.isSolid = true)
    (hrest : rest.Lawful) : (Fields.field key (some none) get (.nullable s) rest).Lawful := by
  refine And.intro (And.intro hsolid hs) (And.intro ?_ (And.intro ?_ hrest))
  · rintro a ⟨⟩
    exact ⟨trivial, rfl, fun _ => .null⟩
  · intro style a h
    cases a with
    | none => rfl
    | some a => exact absurd h (Shape.write_ne_null hsolid style a)

end Fields

theorem Shape.isDefault_text : (Shape.text 0 none).IsDefault "" :=
  ⟨⟨Nat.zero_le _, fun _ h => nomatch h⟩, rfl, fun _ => .text⟩

theorem Shape.isDefault_nil {α : Type} (kind : Sequence) (s : Shape α) :
    (Shape.sequence kind s).IsDefault [] :=
  ⟨fun _ h => absurd h List.not_mem_nil, rfl,
    fun _ => .array (fun h => absurd rfl h) fun _ h => absurd h List.not_mem_nil⟩

theorem Shape.isDefault_empty {α : Type} (s : Shape α) : (Shape.dict s).IsDefault .empty :=
  ⟨fun _ h => absurd h List.not_mem_nil, rfl,
    fun _ => .object (fun h => absurd rfl h) fun _ h => absurd h List.not_mem_nil⟩

end Wire

open Wire

theorem Payload.slots_of_ofSlots {slots : Slots} {p : Payload} (h : ofSlots slots = .ok p) :
    (p.double?, p.doubles?, p.long?, p.longs?, p.text?, p.texts?, p.map?, ()) = slots := by
  obtain ⟨x, xs, n, ns, s, ss, members, ⟨⟩⟩ := slots
  -- Each of the seven fields is there or not; with more than one there is no payload.
  cases x <;> cases xs <;> cases n <;> cases ns <;> cases s <;> cases ss <;> cases members
  all_goals
    cases h
    try rfl

theorem Payload.lawful : Payload.shape.Lawful := by
  refine And.intro (by decide) (And.intro (fun b a h => slots_of_ofSlots h) ?_)
  refine Fields.lawful_nullable trivial rfl ?_
  refine Fields.lawful_nullable trivial rfl ?_
  refine Fields.lawful_nullable trivial rfl ?_
  refine Fields.lawful_nullable trivial rfl ?_
  refine Fields.lawful_nullable trivial rfl ?_
  refine Fields.lawful_nullable trivial rfl ?_
  exact Fields.lawful_nullable trivial rfl trivial

theorem Bucket.lawful : Bucket.shape.Lawful := by
  refine And.intro (by decide) (And.intro (by rintro b a ⟨⟩; rfl) ?_)
  refine Fields.lawful_required trivial rfl ?_
  refine Fields.lawful_required trivial rfl ?_
  refine Fields.lawful_default trivial rfl Shape.isDefault_text ?_
  exact Fields.lawful_nullable Payload.lawful rfl trivial

theorem Allocation.Range.lawful : Allocation.Range.shape.Lawful := by
  refine And.intro (by decide) (And.intro (by rintro b a ⟨⟩; rfl) ?_)
  refine Fields.lawful_required trivial rfl ?_
  exact Fields.lawful_required trivial rfl trivial

theorem Allocation.lawful : Allocation.shape.Lawful := by
  refine And.intro (by decide) (And.intro (by rintro b a ⟨⟩; rfl) ?_)
  refine Fields.lawful_nullable trivial rfl ?_
  refine Fields.lawful_default Allocation.Range.lawful rfl (Shape.isDefault_nil _ _) ?_
  exact Fields.lawful_default trivial rfl Shape.isDefault_text trivial

theorem Definition.lawful : Definition.shape.Lawful := by
  refine And.intro (by decide) (And.intro (by rintro b a ⟨⟩; rfl) ?_)
  refine Fields.lawful_default trivial rfl Shape.isDefault_text ?_
  refine Fields.lawful_default trivial rfl Shape.isDefault_text ?_
  refine Fields.lawful_nullable trivial rfl ?_
  refine Fields.lawful_nullable trivial rfl ?_
  refine Fields.lawful_nullable trivial rfl ?_
  refine Fields.lawful_default trivial rfl (Shape.isDefault_empty _) ?_
  refine Fields.lawful_default Bucket.lawful rfl (Shape.isDefault_nil _ _) ?_
  exact Fields.lawful_default Allocation.lawful rfl (Shape.isDefault_nil _ _) trivial

theorem Snapshot.lawful : Snapshot.shape.Lawful := by
  refine And.intro (by decide) (And.intro (by rintro b a ⟨⟩; rfl) ?_)
  refine Fields.lawful_default trivial rfl Shape.isDefault_text ?_
  refine Fields.lawful_default Bucket.lawful rfl (Shape.isDefault_empty _) ?_
  refine Fields.lawful_default Allocation.lawful rfl (Shape.isDefault_empty _) ?_
  exact Fields.lawful_default Definition.lawful rfl (Shape.isDefault_empty _) trivial

/-- A bucket within the limits of the reader has a value that is not too long. -/
theorem Bucket.isWithinDigits_of_fits {room : Nat} {style : Wire.Style} {b : Bucket}
    (h : Json.Fits room (Bucket.shape.write style b)) : Text.isWithinDigits b.value = true := by
  refine Json.Fits.isWithinDigits (Json.Fits.of_mem (m := ("value", .int b.value)) h ?_)
  obtain ⟨_ | _, _⟩ := style <;> exact .tail _ (.head _)

/-- **The contracts**, by their types. -/
inductive Contract : Type → Type where
  | payload : Contract Payload
  | bucket : Contract Bucket
  | range : Contract Allocation.Range
  | allocation : Contract Allocation
  | definition : Contract Definition
  | snapshot : Contract Snapshot

namespace Contract

/-- How a contract stands in JSON. -/
def shape {α : Type} : Contract α → Shape α
  | .payload => Payload.shape
  | .bucket => Bucket.shape
  | .range => Allocation.Range.shape
  | .allocation => Allocation.shape
  | .definition => Definition.shape
  | .snapshot => Snapshot.shape

/-- **The shapes of contracts are lawful.** -/
theorem lawful {α : Type} (c : Contract α) : c.shape.Lawful := by
  cases c with
  | payload => exact Payload.lawful
  | bucket => exact Bucket.lawful
  | range => exact Allocation.Range.lawful
  | allocation => exact Allocation.lawful
  | definition => exact Definition.lawful
  | snapshot => exact Snapshot.lawful

theorem height_le {α : Type} (c : Contract α) : c.shape.height ≤ 7 := by
  cases c <;> decide

end Contract

/-! ## Validation -/

namespace Wire

variable {α : Type} {s : Shape α}

/-- **A value that was read from some input**, handed over or in a document. -/
def Shape.IsValidated (s : Shape α) (x : α) : Prop :=
  (∃ j, s.read .value j = .ok x) ∨ ∃ document, s.ofText document = .ok x

/-- **That a value is read back from its wire form**, and then written as before. -/
def Shape.FromWire (s : Shape α) (x : α) : Prop :=
  ∃ w, s.wire? x = some w ∧ s.read .value w = .ok x ∧
    ∀ y, s.read .value w = .ok y → s.wire? y = some w

/-- **That a value is read back from its document** in a style, and then written as before. -/
def Shape.FromText (s : Shape α) (style : Style) (x : α) : Prop :=
  ∃ document, s.toText? style x = some document ∧ s.ofText document = .ok x ∧
    ∀ y, s.ofText document = .ok y → s.toText? style y = some document

theorem Shape.ofText_eq_ok_iff {document : String} {x : α} :
    s.ofText document = .ok x ↔
      ∃ j, Json.read? .strict document.toList = some j ∧ s.read .document j = .ok x := by
  unfold ofText
  cases Json.read? .strict document.toList <;> simp [fail]

/-- What is read of a written document is read of its characters. -/
theorem Shape.ofText_toText_eq_ok_iff {style : Style} {x y : α} :
    s.ofText (s.toText style x) = .ok y ↔
      ∃ j, Json.read? .strict (s.write style x).chars = some j ∧ s.read .document j = .ok y := by
  rw [Shape.ofText_eq_ok_iff, toText, Json.toList_render]

/-- A line feed at the end of a document changes nothing in what is read. -/
theorem Shape.ofText_append_lineFeed (document : String) {x : α} :
    s.ofText (document ++ "\n") = .ok x ↔ s.ofText document = .ok x := by
  rw [Shape.ofText_eq_ok_iff, Shape.ofText_eq_ok_iff, String.toList_append,
    show "\n".toList = ['\n'] from rfl, Json.read?_append_lineFeed]

theorem Shape.IsValidated.exists_read {x : α} (h : s.IsValidated x) :
    ∃ origin j, s.read origin j = .ok x := by
  rcases h with ⟨j, hj⟩ | ⟨document, hdocument⟩
  · exact ⟨.value, j, hj⟩
  · obtain ⟨j, -, hj⟩ := Shape.ofText_eq_ok_iff.1 hdocument
    exact ⟨.document, j, hj⟩

/-- **A value is read back from its wire form** unless it nests too deeply. -/
theorem Shape.fromWire_iff (hs : s.Lawful) {x : α} (hx : s.IsValidated x)
    (hfinite : s.isFinite x = true) : s.FromWire x ↔ s.freeLevels x ≤ nestingLimit := by
  obtain ⟨origin, j, hread⟩ := hx.exists_read
  constructor
  · rintro ⟨w, hw, -⟩
    refine Nat.le_of_not_lt fun hlt => ?_
    rw [Shape.wire?_eq_none_iff.2 hlt] at hw
    cases hw
  · intro hlevels
    have hwire : s.wire? x = some (s.wire x) := if_pos (by simpa [isWithinNesting] using hlevels)
    have hback : s.read .value (s.wire x) = .ok x :=
      s.read_write .value .wire hs (s.holds_of_read hs hread) hfinite
    refine ⟨_, hwire, hback, fun y hy => ?_⟩
    obtain rfl := Except.ok.inj (hback.symm.trans hy)
    exact hwire

/-- A value within the limits of the reader is read back from its document. -/
theorem Shape.ofText_toText (hs : s.Lawful) {style : Style} {x : α} (hx : s.Holds x)
    (hfinite : s.isFinite x = true) (hfits : Json.Fits 200 (s.write style x)) :
    s.toText? style x = some (s.toText style x) ∧ s.ofText (s.toText style x) = .ok x := by
  have hlevels := s.freeLevels_le hfits
  exact ⟨if_pos (decide_eq_true (hlevels.trans (by decide))), Shape.ofText_toText_eq_ok_iff.2
    ⟨_, Json.read?_chars_of_isFinite hfits (s.isFinite_write style hfinite),
      s.read_write .document style hs hx hfinite⟩⟩

/-- What was read from a document is written within the limits of the reader. -/
theorem Shape.fits_write_of_ofText (hs : s.Lawful) (hheight : s.height ≤ 200) {document : String}
    {x : α} (h : s.ofText document = .ok x) (style : Style) : Json.Fits 200 (s.write style x) := by
  obtain ⟨j, hj, hread⟩ := Shape.ofText_eq_ok_iff.1 h
  exact s.fits_write style hs hread (Json.fits_of_read? hj) hheight

/-- **A value is read back from its document** exactly if this is within the limits of the
reader. -/
theorem Shape.fromText_iff (hs : s.Lawful) (hheight : s.height ≤ 200) (style : Style) {x : α}
    (hx : s.IsValidated x) (hfinite : s.isFinite x = true) :
    s.FromText style x ↔ Json.Fits 200 (s.write style x) := by
  obtain ⟨origin, j, hread⟩ := hx.exists_read
  constructor
  · rintro ⟨document, -, hdocument, -⟩
    exact Shape.fits_write_of_ofText hs hheight hdocument style
  · intro hfits
    obtain ⟨hwritten, hback⟩ := Shape.ofText_toText hs (s.holds_of_read hs hread) hfinite hfits
    refine ⟨_, hwritten, hback, fun y hy => ?_⟩
    obtain rfl := Except.ok.inj (hback.symm.trans hy)
    exact hwritten

end Wire

namespace Contract

/-- **Every contract is read back, within the limits**: a validated contract without NaN and
infinities from its wire form, exactly if its free-form parts do not nest too deeply, and from its
document in every style, exactly if this is within the limits of the reader. -/
theorem read_back {α : Type} (c : Contract α) {x : α} (hx : c.shape.IsValidated x)
    (hfinite : c.shape.isFinite x = true) :
    (c.shape.FromWire x ↔ c.shape.freeLevels x ≤ nestingLimit) ∧
      ∀ style, c.shape.FromText style x ↔ Json.Fits 200 (c.shape.write style x) :=
  ⟨Shape.fromWire_iff c.lawful hx hfinite,
    fun style => Shape.fromText_iff c.lawful (c.height_le.trans (by decide)) style hx hfinite⟩

/-- A bucket whose payload holds a null, and integers and doubles side by side. -/
def mixed : Bucket where
  name := "on"
  value := 1
  description := ""
  payload := some (.map (.ofList
    [("a", .null), ("b", .array [.int 1, .double (.ofInt 1)]), ("c", .object [])]))

/-- It is read back from everything that it is written to. -/
theorem read_back_mixed : Bucket.shape.FromWire mixed ∧
    ∀ style, Bucket.shape.FromText style mixed := by
  have hread : Bucket.shape.ofText (Bucket.shape.toText .wire mixed) = .ok mixed :=
    Shape.ofText_toText_eq_ok_iff.2
      ⟨Bucket.shape.write .wire mixed, by decide +kernel, by decide +kernel⟩
  have hback := read_back .bucket (.inr ⟨_, hread⟩) (by decide +kernel)
  exact ⟨hback.1.2 (by decide +kernel), fun style => (hback.2 style).2
    (Shape.fits_write_of_ofText Bucket.lawful (by decide) hread style)⟩

/-- Arrays within one another, with a null inside. -/
def nested : Nat → Json
  | 0 => .null
  | n + 1 => .array [nested n]

theorem settled_nested (n : Nat) : (nested n).settled = nested n := by
  induction n with
  | zero => rfl
  | succ n ih => simp [nested, Json.settled, Json.settledItems, ih]

theorem isFinite_nested (n : Nat) : (nested n).isFinite = true := by
  induction n with
  | zero => rfl
  | succ n ih => simp [nested, Json.isFinite, Json.itemsFinite, ih]

theorem levels_nested (n : Nat) : (nested n).levels = n + 1 := by
  induction n with
  | zero => rfl
  | succ n ih => simp [nested, Json.levels, Json.itemLevels, ih]

/-- A payload with arrays within one another. -/
def deep (n : Nat) : Payload := .map (.ofList [("a", nested n)])

theorem isFinite_deep (n : Nat) : Payload.shape.isFinite (deep n) = true := by
  show ((nested n).isFinite && true && true) = true
  rw [isFinite_nested]
  rfl

theorem freeLevels_deep (n : Nat) : Payload.shape.freeLevels (deep n) = n + 1 := by
  rw [← levels_nested n]
  simp [deep, Payload.shape, Payload.fields, Shape.freeLevels, Fields.freeLevels, Payload.double?,
    Payload.doubles?, Payload.long?, Payload.longs?, Payload.text?, Payload.texts?, Payload.map?,
    Dict.ofList, Dict.insert, Dict.storeEntry, Dict.empty]

theorem isValidated_deep (n : Nat) : Payload.shape.IsValidated (deep n) := by
  refine .inl ⟨_, Payload.shape.read_write .value .wire Payload.lawful ?_ (isFinite_deep n)⟩
  refine ⟨⟨trivial, trivial, trivial, trivial, trivial, trivial, fun e he => ?_, trivial⟩, rfl⟩
  obtain rfl := List.mem_singleton.1 he
  exact settled_nested n

/-- A bucket with an integer of too many digits. -/
def long : Bucket := .bare (Nat.pow 10 Text.digitLimit)

theorem isValidated_bare (value : Int) : Bucket.shape.IsValidated (.bare value) :=
  .inl ⟨.object [("name", .text ""), ("value", .int value)], rfl⟩

theorem levels_write_bare (style : Wire.Style) (value : Int) :
    (Bucket.shape.write style (.bare value)).levels = 2 := by
  obtain ⟨_ | _, _ | _⟩ := style <;> rfl

/-- **Not every contract is read back**: a payload that nests too deeply has no wire form, and the
document of a bucket whose value has too many digits is not read. -/
theorem not_read_back :
    (Payload.shape.IsValidated (deep 255) ∧ Payload.shape.isFinite (deep 255) = true ∧
        ¬ Payload.shape.FromWire (deep 255)) ∧
      Bucket.shape.IsValidated long ∧ Bucket.shape.isFinite long = true ∧
        ∀ style, (Bucket.shape.write style long).levels ≤ 200 ∧
          ¬ Bucket.shape.FromText style long := by
  refine ⟨⟨isValidated_deep 255, isFinite_deep 255, fun hback => ?_⟩, ?_, rfl, fun style => ?_⟩
  · have hlevels := (Shape.fromWire_iff Payload.lawful (isValidated_deep 255)
      (isFinite_deep 255)).1 hback
    rw [freeLevels_deep] at hlevels
    exact absurd hlevels (by decide)
  · exact isValidated_bare _
  · refine ⟨(levels_write_bare style _).trans_le (by decide), fun hback => ?_⟩
    have hfits := (Shape.fromText_iff Bucket.lawful (by decide) style (isValidated_bare _) rfl).1
      hback
    exact absurd (Bucket.isWithinDigits_of_fits hfits) (by decide +kernel)

end Contract

end ExperimentGroups
