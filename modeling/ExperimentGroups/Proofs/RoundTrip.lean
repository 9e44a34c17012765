import ExperimentGroups.Proofs.Lawful

/-!
# What is written is read back

The members of a record are written field by field, so the member of a field is found among them,
unless it was left out. From this a finite value of a lawful shape is read back as it is from
whatever it is written to, whether this is handed over or stands in a document.

## Main results

* `Wire.Key.find?_member`: the member of a field is found among the others
* `Wire.Shape.isFinite_write`: a finite value is written as a finite value
* `Wire.Shape.read_write`: and it is read back from there
-/

namespace ExperimentGroups

namespace Dict

variable {α β : Type}

theorem findEntry_append (name : String) (es fs : List (String × α)) :
    findEntry name (es ++ fs) = (findEntry name es).or (findEntry name fs) := by
  induction es with
  | nil => rfl
  | cons e es ih => by_cases h : e.1 = name <;> simp [findEntry, h, ih]

theorem mem_of_findEntry {name : String} {es : List (String × α)} {value : α}
    (h : findEntry name es = some value) : (name, value) ∈ es := by
  induction es with
  | nil => cases h
  | cons e es ih =>
    rw [findEntry] at h
    split at h
    · next hname =>
      cases h
      exact hname ▸ List.mem_cons_self
    · exact List.mem_cons_of_mem _ (ih h)

theorem findLast_append (name : String) (es fs : List (String × α)) :
    findLast name (es ++ fs) = (findLast name fs).or (findLast name es) := by
  rw [findLast, List.reverse_append, findEntry_append]
  rfl

theorem findLast_singleton (name : String) (e : String × α) :
    findLast name [e] = if e.1 = name then some e.2 else none := by
  simp [findLast, findEntry]

theorem findLast_eq_none_iff (name : String) (es : List (String × α)) :
    findLast name es = none ↔ ∀ e ∈ es, e.1 ≠ name := by
  rw [findLast, findEntry_eq_none_iff, List.map_reverse, List.mem_reverse, List.mem_map, not_exists]
  exact forall_congr' fun e => not_and

theorem findLast_map (f : α → β) (name : String) (es : List (String × α)) :
    findLast name (es.map fun e => (e.1, f e.2)) = (findLast name es).map f := by
  rw [findLast, ← List.map_reverse, findEntry_map fun _ => f]
  rfl

end Dict

namespace Wire

/-! ## The members of a record -/

/-- That no member of an object has a name of a field. -/
def Key.Unused (key : Key) (ms : List (String × Json)) : Prop :=
  ∀ m ∈ ms, m.1 ≠ key.camel ∧ m.1 ≠ key.snake

theorem Key.find?_append_of_unused_left {key : Key} {ms : List (String × Json)}
    (h : key.Unused ms) (ns : List (String × Json)) : key.find? (ms ++ ns) = key.find? ns := by
  have hcamel := (Dict.findLast_eq_none_iff key.camel ms).2 fun m hm => (h m hm).1
  have hsnake := (Dict.findLast_eq_none_iff key.snake ms).2 fun m hm => (h m hm).2
  simp [find?, Dict.findLast_append, hcamel, hsnake]

theorem Key.find?_append_of_unused_right {key : Key} {ns : List (String × Json)}
    (h : key.Unused ns) (ms : List (String × Json)) : key.find? (ms ++ ns) = key.find? ms := by
  have hcamel := (Dict.findLast_eq_none_iff key.camel ns).2 fun m hm => (h m hm).1
  have hsnake := (Dict.findLast_eq_none_iff key.snake ns).2 fun m hm => (h m hm).2
  simp [find?, Dict.findLast_append, hcamel, hsnake]

theorem Key.find?_map (key : Key) (f : Json → Json) (ms : List (String × Json)) :
    key.find? (ms.map fun m => (m.1, f m.2)) = (key.find? ms).map fun m => (m.1, f m.2) := by
  rw [find?, find?, Dict.findLast_map, Dict.findLast_map]
  cases Dict.findLast key.camel ms with
  | some j => rfl
  | none => cases Dict.findLast key.snake ms <;> rfl

theorem Key.find?_singleton (key : Key) (style : Style) (j : Json) :
    key.find? [(style.name key, j)] = some (style.name key, j) := by
  cases hcamel : style.camel
  · by_cases h : key.snake = key.camel <;>
      simp [find?, Dict.findLast, Dict.findEntry, Style.name, hcamel, h]
  · simp [find?, Dict.findLast, Dict.findEntry, Style.name, hcamel]

theorem Style.member_eq_nil_or (style : Style) (key : Key) (j : Json) :
    (style.member key j = [] ∧ j = .null) ∨ style.member key j = [(style.name key, j)] := by
  cases j with
  | null => cases h : style.keepNulls <;> simp [member, h]
  | _ => exact .inr rfl

theorem Style.eq_of_mem_member {style : Style} {key : Key} {j : Json} {m : String × Json}
    (h : m ∈ style.member key j) : m = (style.name key, j) := by
  rcases style.member_eq_nil_or key j with ⟨hnil, _⟩ | hsome
  · rw [hnil] at h
    exact absurd h List.not_mem_nil
  · rw [hsome] at h
    exact List.mem_singleton.1 h

/-- **The member of a field is found among the others**, unless it was left out. -/
theorem Key.find?_member {key : Key} {pre post : List (String × Json)} (hpre : key.Unused pre)
    (hpost : key.Unused post) (style : Style) (j : Json) :
    key.find? (pre ++ (style.member key j ++ post)) = (style.member key j).head? := by
  rw [find?_append_of_unused_left hpre, find?_append_of_unused_right hpost]
  rcases style.member_eq_nil_or key j with ⟨h, _⟩ | h
  · rw [h]
    rfl
  · rw [h, find?_singleton]
    rfl

theorem Key.Apart.unused_member {key other : Key} (h : key.Apart other) (style : Style)
    (j : Json) : key.Unused (style.member other j) := by
  obtain ⟨h₁, h₂, h₃, h₄⟩ := h
  intro m hm
  have hname : m.1 = other.camel ∨ m.1 = other.snake := by
    obtain rfl := Style.eq_of_mem_member hm
    cases hcamel : style.camel <;> simp [Style.name, hcamel]
  rcases hname with hname | hname <;> rw [hname]
  · exact ⟨h₁.symm, h₃.symm⟩
  · exact ⟨h₂.symm, h₄.symm⟩

theorem Key.Apart.symm {key other : Key} (h : key.Apart other) : other.Apart key :=
  ⟨h.1.symm, h.2.2.1.symm, h.2.1.symm, h.2.2.2.symm⟩

theorem Key.Unused.append {key : Key} {ms ns : List (String × Json)} (hms : key.Unused ms)
    (hns : key.Unused ns) : key.Unused (ms ++ ns) := fun m hm =>
  (List.mem_append.1 hm).elim (hms m) (hns m)

theorem Fields.unused_write {ρ β : Type} {key : Key} (style : Style) :
    ∀ (fields : Fields ρ β) (r : ρ), (∀ k ∈ fields.keys, key.Apart k) →
      key.Unused (fields.write style r)
  | .done, _, _ => fun _ hm => absurd hm List.not_mem_nil
  | .field other _ _ _ rest, r, h =>
    ((h other List.mem_cons_self).unused_member style _).append
      (rest.unused_write style r fun k hk => h k (List.mem_cons_of_mem _ hk))

/-! ## Finite values -/

mutual

/-- **A finite value is written as a finite value.** -/
theorem Shape.isFinite_write {α : Type} (style : Style) : ∀ (s : Shape α) {a : α},
    s.isFinite a = true → (s.write style a).isFinite = true
  | .text _ _, _, _ => rfl
  | .choice _ _, _, _ => rfl
  | .integer, _, _ => rfl
  | .double, _, h => h
  | .share, _, h => h
  | .anything, j, _ => j.isFinite_dropNonFinite
  | .nullable _, none, _ => rfl
  | .nullable s, some _, h => s.isFinite_write style h
  | .sequence _ s, xs, h => by
    have h := List.all_eq_true.1 h
    rw [Shape.write, Json.isFinite, Json.itemsFinite_iff, List.forall_mem_map]
    exact fun x hx => s.isFinite_write style (h x hx)
  | .dict s, d, h => by
    have h := List.all_eq_true.1 h
    rw [Shape.write, Json.isFinite, Json.membersFinite_iff, Dict.map, List.forall_mem_map]
    exact fun e he => s.isFinite_write style (h e he)
  | .record fields _, a, h => by
    rw [Shape.write, Json.isFinite, Json.membersFinite_iff]
    exact fields.isFinite_write style h

theorem Fields.isFinite_write {ρ β : Type} (style : Style) : ∀ (fields : Fields ρ β) {r : ρ},
    fields.isFinite r = true → ∀ m ∈ fields.write style r, m.2.isFinite = true
  | .done, _, _ => fun _ hm => absurd hm List.not_mem_nil
  | .field key _ get s rest, r, h => by
    rw [Fields.isFinite, Bool.and_eq_true] at h
    intro m hm
    rcases List.mem_append.1 hm with hm | hm
    · obtain rfl := Style.eq_of_mem_member hm
      exact s.isFinite_write style h.1
    · exact rest.isFinite_write style h.2 m hm

end

/-! ## Reading back -/

section Items

variable {α : Type} {read : Json → Checked α} {write : α → Json}

theorem readItems_map {xs : List α} (h : ∀ x ∈ xs, read (write x) = .ok x) (i : Nat) :
    readItems read i (xs.map write) = .ok xs := by
  induction xs generalizing i with
  | nil => rfl
  | cons x xs ih =>
    rw [List.map_cons, readItems, h x List.mem_cons_self,
      ih fun y hy => h y (List.mem_cons_of_mem x hy)]
    rfl

theorem readEntries_map {es : List (String × α)} (h : ∀ e ∈ es, read (write e.2) = .ok e.2) :
    readEntries read (es.map fun e => (e.1, write e.2)) = .ok es := by
  induction es with
  | nil => rfl
  | cons e es ih =>
    rw [List.map_cons, readEntries, h e List.mem_cons_self,
      ih fun e' he => h e' (List.mem_cons_of_mem e he)]
    rfl

end Items

theorem Shape.write_ne_null {α : Type} {s : Shape α} (h : s.isSolid = true) (style : Style)
    (a : α) : s.write style a ≠ .null := by
  cases s with
  | anything => cases h
  | nullable => cases h
  | _ => exact Json.noConfusion

theorem Shape.read_nullable_of_ne_null {α : Type} (origin : Origin) (s : Shape α) {j : Json}
    (h : j ≠ .null) : (Shape.nullable s).read origin j = (s.read origin j).map some := by
  cases j with
  | null => exact absurd rfl h
  | _ => rfl

mutual

/-- **What is written is read back.** -/
theorem Shape.read_write {α : Type} (origin : Origin) (style : Style) : ∀ (s : Shape α) {a : α},
    s.Lawful → s.Holds a → s.isFinite a = true → s.read origin (s.write style a) = .ok a
  | .text least most, s, _, hholds, _ => by
    have hmost : most.any (· < s.length) = false := by
      simpa [Option.any_eq_false] using hholds.2
    have hleast : ¬ s.length < least := Nat.not_lt.2 hholds.1
    simp [Shape.read, Shape.write, readText, hmost, hleast]
  | .choice options label, a, _, hholds, _ => by
    have hholds : Dict.findEntry (label a) options = some a := hholds
    simp [Shape.read, Shape.write, readChoice, hholds]
  | .integer, _, _, _, _ => rfl
  | .double, _, _, _, _ => rfl
  | .share, x, _, hholds, _ => by
    simp [Shape.read, Shape.write, share, double, hholds.1, hholds.2, orFail]
  | .anything, j, _, hholds, hfinite => by
    have hholds : j.settled = j := hholds
    rw [Shape.write, Json.dropNonFinite_of_isFinite hfinite, Shape.read_anything, hholds]
  | .nullable _, none, _, _, _ => rfl
  | .nullable s, some a, hlawful, hholds, hfinite => by
    show (Shape.nullable s).read origin (s.write style a) = _
    rw [Shape.read_nullable_of_ne_null origin s (Shape.write_ne_null hlawful.1 style a),
      s.read_write origin style hlawful.2 hholds hfinite]
    rfl
  | .sequence _ s, xs, hlawful, hholds, hfinite =>
    have hfinite := List.all_eq_true.1 hfinite
    readItems_map (fun x hx => s.read_write origin style hlawful (hholds x hx) (hfinite x hx)) 0
  | .dict s, d, hlawful, hholds, hfinite => by
    have hfinite := List.all_eq_true.1 hfinite
    have hentries : readEntries (s.read origin) (d.entries.map fun e => (e.1, s.write style e.2)) =
        .ok d.entries :=
      readEntries_map fun e he => s.read_write origin style hlawful (hholds e he) (hfinite e he)
    show (readEntries (s.read origin) (d.entries.map fun e => (e.1, s.write style e.2))).map
      Dict.ofList = .ok d
    rw [hentries]
    exact congrArg Except.ok (Dict.ext_entries (Dict.entries_ofList d.distinct))
  | .record fields make, a, hlawful, hholds, hfinite => by
    obtain ⟨hapart, _, hfields⟩ := hlawful
    have hread := fields.read_write origin style hfields hapart hholds.1 hfinite []
      fun _ _ _ hm => absurd hm List.not_mem_nil
    show (fields.read origin ([] ++ fields.write style a)).bind _ = _
    rw [hread]
    show orFail _ (make (fields.values a)) = _
    rw [hholds.2]
    rfl

/-- The fields of a record are read back behind members that belong to none of them. -/
theorem Fields.read_write {ρ β : Type} (origin : Origin) (style : Style) :
    ∀ (fields : Fields ρ β) {r : ρ}, fields.Lawful → fields.keys.Pairwise Key.Apart →
      fields.Holds r → fields.isFinite r = true → ∀ pre : List (String × Json),
        (∀ key ∈ fields.keys, key.Unused pre) →
          fields.read origin (pre ++ fields.write style r) = .ok (fields.values r)
  | .done, _, _, _, _, _, _, _ => rfl
  | .field key default get s rest, r, hlawful, hapart, hholds, hfinite, pre, hpre => by
    obtain ⟨hs, _, hnull, hrest⟩ := hlawful
    obtain ⟨hkey, hkeys⟩ := List.pairwise_cons.1 hapart
    rw [Fields.isFinite, Bool.and_eq_true] at hfinite
    have hfind := Key.find?_member (hpre key List.mem_cons_self)
      (rest.unused_write style r hkey) style (s.write style (get r))
    refine Fields.read_field_eq_ok_iff.2 ⟨?_, ?_⟩
    · rw [Fields.write, hfind]
      rcases style.member_eq_nil_or key (s.write style (get r)) with ⟨hnil, hj⟩ | hsome
      · rw [hnil]
        exact .inr ⟨rfl, hnull style _ hj⟩
      · rw [hsome]
        exact .inl ⟨_, _, rfl, s.read_write origin style hs hholds.1 hfinite.1⟩
    · rw [Fields.write, ← List.append_assoc]
      refine rest.read_write origin style hrest hkeys hholds.2 hfinite.2 _ fun other hother => ?_
      exact (hpre other (List.mem_cons_of_mem _ hother)).append
        ((hkey other hother).symm.unused_member style _)

end

end Wire

end ExperimentGroups
