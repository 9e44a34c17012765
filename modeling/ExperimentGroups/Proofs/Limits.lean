import ExperimentGroups.Proofs.RoundTrip

/-!
# The limits of written values

What is read from a value within the limits of the reader is written as a value within the same
limits, if there is room for the parts that the shape itself opens: an integer field only takes
integers that are not too long, and a default takes no room. What is within these limits also nests
less than a free-form value may when it is written.

## Main definitions

* `Wire.Shape.height`: how many arrays and objects a shape opens within one another

## Main results

* `Wire.isWithinDigits_of_integer`: what an integer field takes is not too long
* `Wire.Shape.fits_write`: what is read is written within the same limits
* `Wire.Shape.freeLevels_le`: what is within the limits of the reader does not nest too deeply
-/

namespace ExperimentGroups

open Json (Fits)

namespace Wire

/-! ## Integers -/

theorem isWithinDigits_of_plainInteger {cs : List Char} {n : Int} (h : plainInteger cs = .ok n) :
    Text.isWithinDigits n = true := by
  unfold plainInteger at h
  dsimp only at h
  split at h
  · cases h
  · split_ifs at h
    cases h
    exact Text.isWithinDigits_of_lt (k := 0) Nat.one_pos (Nat.zero_le _)
  · next ds rest _ _ hspan =>
    split_ifs at h with hlimit hrest hnegative
    all_goals
      cases h
      have hvalue := Text.ofDigits_lt fun d hd => Text.lt_ten_of_mem_spanDigits
        (by rw [hspan]; exact hd)
      refine Text.isWithinDigits_of_lt (lt_of_eq_of_lt ?_ hvalue) (Nat.le_of_not_lt hlimit)
      simp

theorem isWithinDigits_of_integerText {s : String} {n : Int} (h : integerText s = .ok n) :
    Text.isWithinDigits n = true := by
  unfold integerText at h
  split at h
  · split at h
    · next m hm =>
      obtain ⟨cs, -, hplain⟩ := Option.map_eq_some_iff.1 hm
      cases h
      exact isWithinDigits_of_plainInteger hplain
    · cases h
  · exact isWithinDigits_of_plainInteger h

/-- **What an integer field takes is not too long**, unless it was an integer before. -/
theorem isWithinDigits_of_integer {room : Nat} {j : Json} {n : Int} (h : integer j = .ok n)
    (hj : Fits room j) : Text.isWithinDigits n = true := by
  cases hj with
  | int hn =>
    cases h
    exact hn
  | bool =>
    cases h
    refine Text.isWithinDigits_of_lt (k := 1) ?_ (by decide)
    split <;> decide
  | double =>
    have h : integerOfDouble _ = .ok n := h
    unfold integerOfDouble at h
    split_ifs at h
    split at h
    · cases h
    · split_ifs at h with hbound
      cases h
      exact Text.isWithinDigits_of_lt (k := 19) (hbound.trans (by decide)) (by decide)
  | text => exact isWithinDigits_of_integerText h
  | null => cases h
  | array => cases h
  | object => cases h

/-! ## Room -/

mutual

/-- **How many arrays and objects a shape opens within one another**, free-form values apart. -/
def Shape.height {α : Type} : Shape α → Nat
  | .nullable s => s.height
  | .sequence _ s => s.height + 1
  | .dict s => s.height + 1
  | .record fields _ => fields.height + 1
  | _ => 0

/-- How many arrays and objects the fields of a record open within one another. -/
def Fields.height {ρ β : Type} : Fields ρ β → Nat
  | .done => 0
  | .field _ _ _ s rest => max s.height rest.height

end

theorem Key.mem_of_find? {key : Key} {ms : List (String × Json)} {m : String × Json}
    (h : key.find? ms = some m) : m ∈ ms := by
  have hmem : ∀ {name : String} {j : Json}, Dict.findLast name ms = some j → (name, j) ∈ ms :=
    fun hfind => List.mem_reverse.1 (Dict.mem_of_findEntry hfind)
  unfold find? at h
  split at h
  · next hfind =>
    cases h
    exact hmem hfind
  · obtain ⟨j, hfind, rfl⟩ := Option.map_eq_some_iff.1 h
    exact hmem hfind

mutual

/-- **What is read is written within the same limits.** -/
theorem Shape.fits_write {α : Type} {origin : Origin} (style : Style) : ∀ (s : Shape α)
    {room : Nat} {j : Json} {a : α}, s.Lawful → s.read origin j = .ok a → Fits room j →
      s.height ≤ room → Fits room (s.write style a)
  | .text _ _, _, _, _, _, _, _, _ => .text
  | .choice _ _, _, _, _, _, _, _, _ => .text
  | .integer, _, _, _, _, h, hj, _ => .int (isWithinDigits_of_integer (orFail_eq_ok_iff.1 h) hj)
  | .double, _, _, _, _, _, _, _ => .double
  | .share, _, _, _, _, _, _, _ => .double
  | .anything, _, j, a, _, h, hj, _ => by
    rw [Shape.read_anything] at h
    cases h
    exact hj.settled.dropNonFinite
  | .nullable _, _, _, none, _, _, _, _ => .null
  | .nullable s, _, j, some a, hlawful, h, hj, hroom => by
    exact s.fits_write style hlawful.2 (Shape.of_read_nullable h) hj hroom
  | .sequence _ s, room, j, xs, hlawful, h, hj, hroom => by
    have hroom : s.height + 1 ≤ room := hroom
    obtain ⟨js, rfl, hread⟩ := Shape.exists_of_read_sequence h
    cases hj with
    | array _ hitems =>
      refine .array (fun _ => by omega) ?_
      rw [List.forall_mem_map]
      intro x hx
      obtain ⟨j, hmem, hread⟩ := hread x hx
      exact s.fits_write style hlawful hread (hitems j hmem) (by omega)
  | .dict s, room, j, d, hlawful, h, hj, hroom => by
    have hroom : s.height + 1 ≤ room := hroom
    obtain ⟨ms, rfl, hread⟩ := Shape.exists_of_read_dict h
    cases hj with
    | object _ hmembers =>
      refine .object (fun _ => by omega) ?_
      rw [Dict.map, List.forall_mem_map]
      intro e he
      obtain ⟨m, hmem, hread⟩ := hread e he
      exact s.fits_write style hlawful hread (hmembers m hmem) (by omega)
  | .record fields make, room, j, a, hlawful, h, hj, hroom => by
    have hroom : fields.height + 1 ≤ room := hroom
    obtain ⟨_, hmake, hfields⟩ := hlawful
    obtain ⟨ms, rfl, hread, -⟩ := Shape.exists_of_read_record hmake h
    cases hj with
    | object _ hmembers =>
      exact .object (fun _ => by omega)
        (fields.fits_write style hfields hread hmembers (by omega))

theorem Fields.fits_write {ρ β : Type} {origin : Origin} (style : Style) :
    ∀ (fields : Fields ρ β) {room : Nat} {ms : List (String × Json)} {r : ρ}, fields.Lawful →
      fields.read origin ms = .ok (fields.values r) → (∀ m ∈ ms, Fits room m.2) →
        fields.height ≤ room → ∀ m ∈ fields.write style r, Fits room m.2
  | .done, _, _, _, _, _, _, _ => fun _ hm => absurd hm List.not_mem_nil
  | .field key default get s rest, room, ms, r, hlawful, h, hms, hroom => by
    obtain ⟨hs, hdefault, _, hrest⟩ := hlawful
    obtain ⟨hfield, htail⟩ := Fields.read_field_eq_ok_iff.1 h
    have hroom : s.height ≤ room ∧ rest.height ≤ room := Nat.max_le.1 hroom
    intro m hm
    rcases List.mem_append.1 hm with hm | hm
    · obtain rfl := style.eq_of_mem_member hm
      rcases hfield with ⟨name, j, hfind, hread⟩ | ⟨_, hnone⟩
      · exact s.fits_write style hs hread (hms _ (Key.mem_of_find? hfind)) hroom.1
      · exact ((hdefault _ hnone).fits style).mono (Nat.zero_le room)
    · exact rest.fits_write style hrest htail hms hroom.2 m hm

end

/-! ## Levels -/

theorem foldl_max_le_iff {l : List Nat} {m n : Nat} :
    l.foldl max m ≤ n ↔ m ≤ n ∧ ∀ x ∈ l, x ≤ n := by
  induction l generalizing m with
  | nil => simp
  | cons x l ih => simp [ih, and_assoc]

mutual

/-- **What is within the limits of the reader does not nest too deeply.** -/
theorem Shape.freeLevels_le {α : Type} {style : Style} : ∀ (s : Shape α) {room : Nat} {a : α},
    Fits room (s.write style a) → s.freeLevels a ≤ room + 1
  | .text _ _, _, _, _ => Nat.zero_le _
  | .choice _ _, _, _, _ => Nat.zero_le _
  | .integer, _, _, _ => Nat.zero_le _
  | .double, _, _, _ => Nat.zero_le _
  | .share, _, _, _ => Nat.zero_le _
  | .anything, _, j, h => (Json.levels_dropNonFinite j).ge.trans h.levels_le
  | .nullable _, _, none, _ => Nat.zero_le _
  | .nullable s, _, some _, h => s.freeLevels_le h
  | .sequence _ s, room, xs, h => by
    cases h with
    | array _ hitems =>
      rw [List.forall_mem_map] at hitems
      refine foldl_max_le_iff.2 ⟨Nat.zero_le _, ?_⟩
      rw [List.forall_mem_map]
      intro x hx
      have hlevels := s.freeLevels_le (hitems x hx)
      omega
  | .dict s, room, d, h => by
    cases h with
    | object _ hmembers =>
      rw [Dict.map, List.forall_mem_map] at hmembers
      refine foldl_max_le_iff.2 ⟨Nat.zero_le _, ?_⟩
      rw [List.forall_mem_map]
      intro e he
      have hlevels := s.freeLevels_le (hmembers e he)
      omega
  | .record fields _, room, a, h => by
    cases h with
    | object _ hmembers =>
      have hlevels := fields.freeLevels_le hmembers
      exact hlevels.trans (by omega)

theorem Fields.freeLevels_le {ρ β : Type} {style : Style} : ∀ (fields : Fields ρ β) {room : Nat}
    {r : ρ}, (∀ m ∈ fields.write style r, Fits room m.2) → fields.freeLevels r ≤ room + 1
  | .done, _, _, _ => Nat.zero_le _
  | .field key _ get s rest, room, r, h => by
    -- A field that is left out is a null.
    have hfits : Fits room (s.write style (get r)) := by
      rcases style.member_eq_nil_or key (s.write style (get r)) with ⟨_, hnull⟩ | hsome
      · rw [hnull]
        exact .null
      · exact h _ (List.mem_append_left _ (hsome ▸ List.mem_singleton_self _))
    exact Nat.max_le.2 ⟨s.freeLevels_le hfits,
      rest.freeLevels_le fun m hm => h m (List.mem_append_right _ hm)⟩

end

end Wire

end ExperimentGroups
