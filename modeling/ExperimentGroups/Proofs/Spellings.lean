import ExperimentGroups.Proofs.Places

/-!
# Spellings

A field may be spelled in camel case or in snake case, the members of a record may come in any
order, and members that belong to no field do not matter. So a value in which no record has a field
in both spellings may be spelled anew, reordered and extended in all its records, at any depth:
what is read stays the same, and so do the problems, up to the names of fields in their places. The
names in dictionaries and free-form values are no fields, and have to stay.

Where a record has a field in both spellings the camel case one counts, also if it is null or not in
order, so that the other one may be taken away.

## Main definitions

* `Wire.Key.members`: the members of an object that belong to a field
* `Wire.Key.respelled`: the edits that spell fields anew, reorder and extend
* `Wire.Key.unshadowed`: the edits that take away what is spelled in both ways

## Main results

* `Wire.Key.find?_eq_getLast?`: the member that is found, if a field is spelled in one way
* `Wire.Key.respelled_within_found`, `Wire.Key.unshadowed_within_foundByName`: both kinds of edits
  leave the members that are found
* `Contract.reads_every_spelling`: contracts are read alike in every spelling
-/

namespace ExperimentGroups

namespace Wire

variable {ms ms' : List (String × Json)}

/-! ## The members of a field -/

/-- The members of a name. -/
def named (name : String) (ms : List (String × Json)) : List (String × Json) :=
  ms.filter fun m => m.1 = name

/-- **The members that belong to a field**, by either of its names. -/
def Key.members (key : Key) (ms : List (String × Json)) : List (String × Json) :=
  ms.filter fun m => m.1 = key.camel ∨ m.1 = key.snake

theorem findLast_eq_getLast? (name : String) (ms : List (String × Json)) :
    (Dict.findLast name ms).map (name, ·) = (named name ms).getLast? := by
  -- The last member decides whether the others matter, so it is taken off first.
  induction ms using List.reverseRecOn with
  | nil => rfl
  | append_singleton ms m ih =>
    rw [Dict.findLast_append, Dict.findLast_singleton, named, List.filter_append]
    by_cases h : m.1 = name
    · subst h
      rw [if_pos rfl, List.filter_cons_of_pos (by simp), List.filter_nil, List.getLast?_concat]
      rfl
    · rw [if_neg h, List.filter_cons_of_neg (by simpa using h), List.filter_nil, List.append_nil]
      exact ih

/-- The member of a field that is found: the last one in camel case, or else in snake case. -/
theorem Key.find?_eq_or (key : Key) (ms : List (String × Json)) :
    key.find? ms = (named key.camel ms).getLast?.or (named key.snake ms).getLast? := by
  rw [← findLast_eq_getLast?, ← findLast_eq_getLast?, find?]
  cases Dict.findLast key.camel ms <;> rfl

/-- **The member that is found, if a field is spelled in one way**: the last one of the field. -/
theorem Key.find?_eq_getLast? {key : Key} {name : String} (h : ∀ m ∈ key.members ms, m.1 = name) :
    key.find? ms = (key.members ms).getLast? := by
  rw [find?_eq_or]
  by_cases hcamel : named key.camel ms = []
  · -- No member is in camel case, so those of the field are those in snake case.
    have hmembers : key.members ms = named key.snake ms := by
      refine List.filter_congr fun m hm => ?_
      have hne : m.1 ≠ key.camel := by
        simpa using List.filter_eq_nil_iff.1 hcamel m hm
      simp [hne]
    rw [hcamel, hmembers]
    rfl
  · obtain ⟨m, hm⟩ := List.exists_mem_of_ne_nil _ hcamel
    obtain ⟨hm, hname⟩ := List.mem_filter.1 hm
    have hname : name = key.camel := by
      rw [← h m (List.mem_filter.2 ⟨hm, by simp_all⟩)]
      simpa using hname
    have hmembers : key.members ms = named key.camel ms := by
      refine List.filter_congr fun m hm => ?_
      have hiff : m.1 = key.camel ∨ m.1 = key.snake ↔ m.1 = key.camel :=
        ⟨fun hor => (h m (List.mem_filter.2 ⟨hm, decide_eq_true hor⟩)).trans hname, .inl⟩
      simp only [hiff]
    rw [hmembers]
    obtain ⟨last, hlast⟩ := Option.isSome_iff_exists.1 (List.getLast?_isSome.2 hcamel)
    rw [hlast]
    rfl

theorem getLast?_rel {R : String × Json → String × Json → Prop} (h : List.Forall₂ R ms ms') :
    Option.Rel R ms.getLast? ms'.getLast? := by
  induction h with
  | nil => exact .none
  | @cons m m' ms ms' hm hms ih =>
    cases hms with
    | nil => exact .some hm
    | cons _ _ => simpa using ih

/-! ## Edits -/

/-- **The edits that spell fields anew, reorder and extend**: in each of the objects the members of
a field all go by one name, and their values correspond. Nothing is said about where these members
stand, and about members of no field. -/
def Key.respelled : Edit := fun key R ms ms' =>
  (∃ name, ∀ m ∈ key.members ms, m.1 = name) ∧ (∃ name, ∀ m ∈ key.members ms', m.1 = name) ∧
    List.Forall₂ (fun m m' => R m.2 m'.2) (key.members ms) (key.members ms')

/-- **The edits that take away what is spelled in both ways**: the values in camel case correspond,
and so do those in snake case, unless there are some in camel case and those in snake case are
gone. -/
def Key.unshadowed : Edit := fun key R ms ms' =>
  List.Forall₂ (fun m m' => R m.2 m'.2) (named key.camel ms) (named key.camel ms') ∧
    (List.Forall₂ (fun m m' => R m.2 m'.2) (named key.snake ms) (named key.snake ms') ∨
      named key.camel ms ≠ [] ∧ named key.snake ms' = [])

/-- A field with one member in each of the objects is spelled anew. -/
theorem Key.respelled_of_members {key : Key} {R : Json → Json → Prop} {m m' : String × Json}
    (hm : key.members ms = [m]) (hm' : key.members ms' = [m']) (hR : R m.2 m'.2) :
    key.respelled R ms ms' := by
  rw [respelled, hm, hm']
  exact ⟨⟨m.1, by simp⟩, ⟨m'.1, by simp⟩, .cons hR .nil⟩

/-- So is a field without members. -/
theorem Key.respelled_of_no_members {key : Key} (R : Json → Json → Prop)
    (hm : key.members ms = []) (hm' : key.members ms' = []) : key.respelled R ms ms' := by
  rw [respelled, hm, hm']
  exact ⟨⟨key.camel, by simp⟩, ⟨key.camel, by simp⟩, .nil⟩

/-- Spelling fields anew leaves the members that are found. -/
theorem Key.respelled_within_found : Edit.Within respelled found := by
  rintro key R R' ms ms' hR ⟨⟨name, hname⟩, ⟨name', hname'⟩, hmembers⟩
  rw [found, find?_eq_getLast? hname, find?_eq_getLast? hname']
  exact rel_imp (fun m m' hm => hR _ _ hm) (getLast?_rel hmembers)

theorem Key.foundByName_within_found : Edit.Within foundByName found :=
  fun _ _ _ _ _ hR h => rel_imp (fun _ _ hm => hR _ _ hm.2) h

/-- The last members of a name correspond if all of them do. -/
theorem named_rel {R : Json → Json → Prop} {name : String}
    (h : List.Forall₂ (fun m m' => R m.2 m'.2) (named name ms) (named name ms')) :
    Option.Rel (fun m m' => m.1 = m'.1 ∧ R m.2 m'.2)
      (named name ms).getLast? (named name ms').getLast? := by
  have hname : ∀ {ns : List (String × Json)} {m : String × Json},
      (named name ns).getLast? = some m → m.1 = name := by
    intro ns m hm
    simpa using (List.mem_filter.1 (List.mem_of_getLast? hm)).2
  rcases rel_iff.1 (getLast?_rel h) with ⟨hm, hm'⟩ | ⟨m, m', hm, hm', hR⟩
  · rw [hm, hm']
    exact .none
  · rw [hm, hm']
    exact .some ⟨(hname hm).trans (hname hm').symm, hR⟩

/-- Taking away what is spelled in both ways leaves the members that are found. -/
theorem Key.unshadowed_within_foundByName : Edit.Within unshadowed foundByName := by
  rintro key R R' ms ms' hR ⟨hcamel, hsnake⟩
  refine rel_imp (R := fun m m' => m.1 = m'.1 ∧ R m.2 m'.2) (fun m m' hm => ⟨hm.1, hR _ _ hm.2⟩) ?_
  rw [find?_eq_or, find?_eq_or]
  rcases rel_iff.1 (named_rel hcamel) with ⟨hm, hm'⟩ | ⟨m, m', hm, hm', hrel⟩
  · -- Nothing is in camel case, so nothing in snake case was taken away.
    rw [hm, hm']
    rcases hsnake with hsnake | ⟨hne, -⟩
    · exact named_rel hsnake
    · exact absurd (List.getLast?_eq_none_iff.1 hm) hne
  · rw [hm, hm']
    exact .some hrel

/-! ## Reading -/

/-- **Another spelling is read alike**: with the same problems at the same places. -/
theorem Shape.read_respelled {α : Type} {s : Shape α} (hs : s.MissesFieldsOnly) {j j' : Json}
    (h : s.Edited Key.respelled j j') (origin : Origin) :
    Checked.Alike (s.SameProblem j j') (s.read origin j) (s.read origin j') :=
  s.read_alike origin j j' hs (.mono Key.respelled_within_found s j j' h)

/-- **What is spelled in both ways may be taken away**: the problems stay at their places. -/
theorem Shape.read_unshadowed {α : Type} {s : Shape α} (hs : s.MissesFieldsOnly) {j j' : Json}
    (h : s.Edited Key.unshadowed j j') (origin : Origin) :
    Checked.Alike (fun p q => p.fault = q.fault ∧ p.path = q.path)
      (s.read origin j) (s.read origin j') := by
  have hnames := Shape.Edited.mono Key.unshadowed_within_foundByName s j j' h
  have hfound := Shape.Edited.mono Key.foundByName_within_found s j j' hnames
  refine (s.read_alike origin j j' hs hfound).mono ?_
  rintro p q ⟨hfault, hplace⟩
  exact ⟨hfault, hplace.path_eq hnames⟩

end Wire

open Wire

/-! ## Contracts -/

theorem Payload.ofSlots_ne_missing (slots : Slots) : ofSlots slots ≠ .error .missing := by
  rcases Nat.lt_or_ge (heldKeys slots).length 2 with h | h
  · obtain ⟨p, hp⟩ := exists_ofSlots (Nat.le_of_lt_succ h)
    simp [hp]
  · simp [ofSlots_of_several h]

namespace Contract

/-- In a contract nothing but a field is reported as missing. -/
theorem missesFieldsOnly {α : Type} (c : Contract α) : c.shape.MissesFieldsOnly := by
  cases c <;>
    simp [shape, Payload.shape, Payload.fields, Bucket.shape, Allocation.Range.shape,
      Allocation.shape, Definition.shape, Snapshot.shape, Shape.MissesFieldsOnly,
      Fields.MissesFieldsOnly, Payload.ofSlots_ne_missing]

/-- **Contracts are read alike in every spelling.** In a value in which no record has a field in
both spellings, fields may be spelled anew, reordered and joined by members that belong to no field,
at any depth; and where a field is spelled in both ways, the one in snake case may be taken away. -/
theorem reads_every_spelling {α : Type} (c : Contract α) (origin : Origin) (j j' : Json) :
    (c.shape.Edited Key.respelled j j' →
      Checked.Alike (c.shape.SameProblem j j') (c.shape.read origin j) (c.shape.read origin j')) ∧
    (c.shape.Edited Key.unshadowed j j' →
      Checked.Alike (fun p q => p.fault = q.fault ∧ p.path = q.path)
        (c.shape.read origin j) (c.shape.read origin j')) :=
  ⟨fun h => Shape.read_respelled c.missesFieldsOnly h origin,
    fun h => Shape.read_unshadowed c.missesFieldsOnly h origin⟩

/-- An allocation with one range. -/
def ranged (range : List (String × Json)) : Json :=
  .object [("ranges", .array [.object range]), ("id", .text "#A")]

/-- A range whose value is not in order and whose length is missing, in camel case. -/
def inCamelCase : Json := ranged [("bucketValue", .text "x")]

/-- The same in snake case, after a member of no field. -/
def inSnakeCase : Json := ranged [("kind", .null), ("bucket_value", .text "x")]

/-- The same in camel case, with a value that is in order in snake case. -/
def inBothCases : Json := ranged [("bucket_value", .int 1), ("bucketValue", .text "x")]

/-- The spellings of a range inside an allocation have the same two problems. -/
theorem reads_every_spelling_ranged :
    Checked.Alike (Allocation.shape.SameProblem inCamelCase inSnakeCase)
      (Allocation.shape.read .value inCamelCase) (Allocation.shape.read .value inSnakeCase) ∧
    Checked.Alike (fun p q => p.fault = q.fault ∧ p.path = q.path)
      (Allocation.shape.read .value inBothCases) (Allocation.shape.read .value inCamelCase) ∧
    (problems (Allocation.shape.read .value inSnakeCase)).map (fun p => (p.path, p.fault)) =
      [([.member "ranges", .item 0, .member "bucket_value"], .integerSyntax),
        ([.member "ranges", .item 0, .member "length"], .missing)] := by
  refine ⟨(reads_every_spelling .allocation .value _ _).1 ?_,
    (reads_every_spelling .allocation .value _ _).2 ?_, by decide +kernel⟩
  · refine .object ⟨?_, ?_, ?_, trivial⟩
    · exact Key.respelled_of_no_members _ rfl rfl
    · refine Key.respelled_of_members rfl rfl (.array (.cons (.object ⟨?_, ?_, trivial⟩) .nil))
      · exact Key.respelled_of_members rfl rfl rfl
      · exact Key.respelled_of_no_members _ rfl rfl
    · exact Key.respelled_of_members rfl rfl rfl
  · refine .object ⟨⟨.nil, .inl .nil⟩, ?_, ⟨.cons rfl .nil, .inl (.cons rfl .nil)⟩, trivial⟩
    have hrange : Allocation.Range.shape.Edited Key.unshadowed
        (.object [("bucket_value", .int 1), ("bucketValue", .text "x")])
        (.object [("bucketValue", .text "x")]) :=
      .object ⟨⟨.cons rfl .nil, .inr ⟨by decide, rfl⟩⟩, ⟨.nil, .inl .nil⟩, trivial⟩
    exact ⟨.cons (.array (.cons hrange .nil)) .nil, .inl (.cons (.array (.cons hrange .nil)) .nil)⟩

end Contract

end ExperimentGroups
