import ExperimentGroups.Proofs.Building

/-!
# Free-form values

A free-form value is kept settled and written without what is not finite. Settling it once is
enough, a finite value is written as it is, and both stay within the limits of the reader. The room
that a value takes bounds its levels.

## Main results

* `Json.induct`: induction on the items and members of a value
* `Json.settled_settled`: a settled value stays as it is
* `Json.dropNonFinite_of_isFinite`: so does a finite one when it is written
* `Json.Fits.settled`, `Json.Fits.dropNonFinite`: the limits of the reader
* `Json.Fits.levels_le`: a value has at most one level more than the room it takes
-/

namespace ExperimentGroups

namespace Json

/-- **Induction on a value**, by its items and members. -/
@[elab_as_elim]
theorem induct {P : Json → Prop} (null : P .null) (bool : ∀ b, P (.bool b))
    (int : ∀ n, P (.int n)) (double : ∀ x, P (.double x)) (text : ∀ s, P (.text s))
    (array : ∀ xs : List Json, (∀ x ∈ xs, P x) → P (.array xs))
    (object : ∀ ms : List (String × Json), (∀ m ∈ ms, P m.2) → P (.object ms)) (j : Json) :
    P j :=
  @Json.rec P (fun xs => ∀ x ∈ xs, P x) (fun ms => ∀ m ∈ ms, P m.2) (fun m => P m.2)
    null bool int double text array object
    (fun _ h => absurd h List.not_mem_nil)
    (fun _ _ hx hxs _ h => by
      rcases List.mem_cons.1 h with rfl | h
      · exact hx
      · exact hxs _ h)
    (fun _ h => absurd h List.not_mem_nil)
    (fun _ _ hm hms _ h => by
      rcases List.mem_cons.1 h with rfl | h
      · exact hm
      · exact hms _ h)
    (fun _ _ h => h) j

/-! ## Parts -/

theorem settledItems_eq_map (xs : List Json) : settledItems xs = xs.map settled := by
  induction xs with
  | nil => rfl
  | cons x xs ih => rw [settledItems, ih, List.map_cons]

theorem settledMembers_eq_map (ms : List (String × Json)) :
    settledMembers ms = ms.map fun m => (m.1, m.2.settled) := by
  induction ms with
  | nil => rfl
  | cons m ms ih => rw [settledMembers, ih, List.map_cons]

theorem dropNonFiniteItems_eq_map (xs : List Json) :
    dropNonFiniteItems xs = xs.map dropNonFinite := by
  induction xs with
  | nil => rfl
  | cons x xs ih => rw [dropNonFiniteItems, ih, List.map_cons]

theorem dropNonFiniteMembers_eq_map (ms : List (String × Json)) :
    dropNonFiniteMembers ms = ms.map fun m => (m.1, m.2.dropNonFinite) := by
  induction ms with
  | nil => rfl
  | cons m ms ih => rw [dropNonFiniteMembers, ih, List.map_cons]

theorem itemsFinite_iff (xs : List Json) :
    itemsFinite xs = true ↔ ∀ x ∈ xs, x.isFinite = true := by
  induction xs with
  | nil => simp [itemsFinite]
  | cons x xs ih => simp [itemsFinite, ih]

theorem membersFinite_iff (ms : List (String × Json)) :
    membersFinite ms = true ↔ ∀ m ∈ ms, m.2.isFinite = true := by
  induction ms with
  | nil => simp [membersFinite]
  | cons m ms ih => simp [membersFinite, ih]

theorem itemLevels_le_iff (xs : List Json) (n : Nat) :
    itemLevels xs ≤ n ↔ ∀ x ∈ xs, x.levels ≤ n := by
  induction xs with
  | nil => simp [itemLevels]
  | cons x xs ih => simp [itemLevels, ih]

theorem memberLevels_le_iff (ms : List (String × Json)) (n : Nat) :
    memberLevels ms ≤ n ↔ ∀ m ∈ ms, m.2.levels ≤ n := by
  induction ms with
  | nil => simp [memberLevels]
  | cons m ms ih => simp [memberLevels, ih]

theorem map_eq_self {α : Type} {f : α → α} {l : List α} (h : ∀ a ∈ l, f a = a) : l.map f = l :=
  (List.map_congr_left h).trans (List.map_id' l)

/-! ## Settling -/

/-- **A settled value stays as it is.** -/
@[simp] theorem settled_settled (j : Json) : j.settled.settled = j.settled := by
  induction j using induct with
  | array xs ih =>
    rw [settled, settled, settledItems_eq_map, settledItems_eq_map, List.map_map]
    exact congrArg Json.array (List.map_congr_left ih)
  | object ms ih =>
    -- The members that are left are settled, and no two have the same name.
    have hmembers : ∀ m ∈ (Dict.ofList (settledMembers ms)).entries, m.2.settled = m.2 := by
      intro m hm
      have hm := Dict.mem_of_mem_ofList hm
      rw [settledMembers_eq_map] at hm
      obtain ⟨m', hm', rfl⟩ := List.mem_map.1 hm
      exact ih m' hm'
    have hsettled : settledMembers (Dict.ofList (settledMembers ms)).entries =
        (Dict.ofList (settledMembers ms)).entries := by
      rw [settledMembers_eq_map]
      exact map_eq_self fun m hm => Prod.ext rfl (hmembers m hm)
    rw [settled, settled, hsettled, Dict.entries_ofList (Dict.distinct _)]
  | null => rfl
  | bool b => rfl
  | int n => rfl
  | double x => rfl
  | text s => rfl

theorem isFinite_settled {j : Json} (h : j.isFinite = true) : j.settled.isFinite = true := by
  induction j using induct with
  | array xs ih =>
    rw [isFinite, itemsFinite_iff] at h
    rw [settled, isFinite, itemsFinite_iff, settledItems_eq_map, List.forall_mem_map]
    exact fun x hx => ih x hx (h x hx)
  | object ms ih =>
    rw [isFinite, membersFinite_iff] at h
    rw [settled, isFinite, membersFinite_iff]
    intro m hm
    have hm := Dict.mem_of_mem_ofList hm
    rw [settledMembers_eq_map] at hm
    obtain ⟨m', hm', rfl⟩ := List.mem_map.1 hm
    exact ih m' hm' (h m' hm')
  | null => exact h
  | bool b => exact h
  | int n => exact h
  | double x => exact h
  | text s => exact h

/-- **A finite value is written as it is.** -/
theorem dropNonFinite_of_isFinite {j : Json} (h : j.isFinite = true) : j.dropNonFinite = j := by
  induction j using induct with
  | double x => exact if_pos h
  | array xs ih =>
    rw [isFinite, itemsFinite_iff] at h
    rw [dropNonFinite, dropNonFiniteItems_eq_map]
    exact congrArg Json.array (map_eq_self fun x hx => ih x hx (h x hx))
  | object ms ih =>
    rw [isFinite, membersFinite_iff] at h
    rw [dropNonFinite, dropNonFiniteMembers_eq_map]
    exact congrArg Json.object (map_eq_self fun m hm => Prod.ext rfl (ih m hm (h m hm)))
  | null => rfl
  | bool b => rfl
  | int n => rfl
  | text s => rfl

/-! ## Limits of the reader -/

theorem Fits.isWithinDigits {room : Nat} {n : Int} (h : Fits room (.int n)) :
    Text.isWithinDigits n = true := by
  cases h with
  | int h => exact h

theorem Fits.of_mem_items {room : Nat} {xs : List Json} {x : Json} (h : Fits room (.array xs))
    (hx : x ∈ xs) : Fits (room - 1) x := by
  cases h with
  | array _ hitems => exact hitems x hx

theorem Fits.of_mem {room : Nat} {ms : List (String × Json)} {m : String × Json}
    (h : Fits room (.object ms)) (hm : m ∈ ms) : Fits (room - 1) m.2 := by
  cases h with
  | object _ hmembers => exact hmembers m hm

theorem Fits.settled {room : Nat} {j : Json} (h : Fits room j) : Fits room j.settled := by
  induction h with
  | array hroom _ ih =>
    rw [Json.settled, settledItems_eq_map]
    refine .array (fun hne => hroom fun hnil => hne (by rw [hnil, List.map_nil])) ?_
    rw [List.forall_mem_map]
    exact ih
  | object hroom _ ih =>
    rw [Json.settled]
    refine .object (fun hne => hroom ?_) fun m hm => ?_
    · rintro rfl
      exact hne rfl
    · have hm := Dict.mem_of_mem_ofList hm
      rw [settledMembers_eq_map] at hm
      obtain ⟨m', hm', rfl⟩ := List.mem_map.1 hm
      exact ih m' hm'
  | null => exact .null
  | bool => exact .bool
  | int h => exact .int h
  | double => exact .double
  | text => exact .text

theorem Fits.dropNonFinite {room : Nat} {j : Json} (h : Fits room j) :
    Fits room j.dropNonFinite := by
  induction h with
  | double =>
    rw [Json.dropNonFinite]
    split
    · exact .double
    · exact .null
  | array hroom _ ih =>
    rw [Json.dropNonFinite, dropNonFiniteItems_eq_map]
    refine .array (fun hne => hroom fun hnil => hne (by rw [hnil, List.map_nil])) ?_
    rw [List.forall_mem_map]
    exact ih
  | object hroom _ ih =>
    rw [Json.dropNonFinite, dropNonFiniteMembers_eq_map]
    refine .object (fun hne => hroom fun hnil => hne (by rw [hnil, List.map_nil])) ?_
    rw [List.forall_mem_map]
    exact ih
  | null => exact .null
  | bool => exact .bool
  | int h => exact .int h
  | text => exact .text

theorem levels_dropNonFinite (j : Json) : j.dropNonFinite.levels = j.levels := by
  induction j using induct with
  | double x =>
    rw [dropNonFinite]
    split <;> rfl
  | array xs ih =>
    rw [dropNonFinite, levels, levels, dropNonFiniteItems_eq_map, Nat.add_right_cancel_iff]
    refine eq_of_forall_ge_iff fun n => ?_
    rw [itemLevels_le_iff, itemLevels_le_iff, List.forall_mem_map]
    exact forall₂_congr fun x hx => by rw [ih x hx]
  | object ms ih =>
    rw [dropNonFinite, levels, levels, dropNonFiniteMembers_eq_map, Nat.add_right_cancel_iff]
    refine eq_of_forall_ge_iff fun n => ?_
    rw [memberLevels_le_iff, memberLevels_le_iff, List.forall_mem_map]
    exact forall₂_congr fun m hm => by rw [ih m hm]
  | null => rfl
  | bool b => rfl
  | int n => rfl
  | text s => rfl

/-- **A value has at most one level more than the room it takes.** -/
theorem Fits.levels_le {room : Nat} {j : Json} (h : Fits room j) : j.levels ≤ room + 1 := by
  induction h with
  | array hroom _ ih =>
    rw [levels, Nat.add_le_add_iff_right, itemLevels_le_iff]
    intro x hx
    have hpos := hroom (List.ne_nil_of_mem hx)
    have hlevels := ih x hx
    omega
  | object hroom _ ih =>
    rw [levels, Nat.add_le_add_iff_right, memberLevels_le_iff]
    intro m hm
    have hpos := hroom (List.ne_nil_of_mem hm)
    have hlevels := ih m hm
    omega
  | null => exact Nat.le_add_left 1 _
  | bool => exact Nat.le_add_left 1 _
  | int h => exact Nat.le_add_left 1 _
  | double => exact Nat.le_add_left 1 _
  | text => exact Nat.le_add_left 1 _

end Json

end ExperimentGroups
