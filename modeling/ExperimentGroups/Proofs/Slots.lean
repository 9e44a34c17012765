import ExperimentGroups.Proofs.Candidates
import ExperimentGroups.Proofs.Contracts
import ExperimentGroups.Proofs.History
import ExperimentGroups.Proofs.Rendering

/-!
# At most one value

In JSON a payload has seven slots, one for each kind of value. A slot holds a value if it is not
null, whatever the value. An object whose slots are all in order is a payload exactly if at most one
of them holds a value; otherwise there is one problem, at the object itself, that names the slots
that do. So every payload in a contract that was read from some input has the slots of an object
with at most one value, and this stays so through every history of the snapshot.

That a payload is empty means the same to the slots, to the value, to equality and to the wire form.
A payload that nests too deeply has no wire form.

## Main definitions

* `Wire.Fields.outcomes`: the outcomes of the fields of a record, one by one
* `Payload.slots`, `Payload.heldKeys`, `Payload.contents`: the slots, and those that hold a value
* `Payload.Admitted`: that a payload has the slots of an object with at most one value
* `Payload.ReadsSlots`, `Payload.HasOneValue`: what the reader does, and what a payload is
* `Contract.payloads`: the payloads in a contract

## Main results

* `Wire.Fields.read_of_outcomes`: the fields are read together if each of them is
* `Payload.readsSlots`: which objects are payloads
* `Contract.admitted_of_isValidated`: payloads in a contract that was read
* `Groups.admitted_after`: payloads in a snapshot after any history
* `Contract.at_most_one_value`: all of this
-/

namespace ExperimentGroups

namespace Wire

/-! ## The fields of a record, one by one -/

/-- The outcome of a field: from its member, or else from its default. -/
def readField {α : Type} (origin : Origin) (ms : List (String × Json)) (key : Key)
    (default : Option α) (s : Shape α) : Checked α :=
  match key.find? ms with
  | some (name, j) => under (.member name) (s.read origin j)
  | none =>
    match default with
    | some a => .ok a
    | none => under (.member key.camel) (fail .missing (.object ms))

/-- **The outcomes of the fields** of a record, without what they give. -/
def Fields.outcomes {ρ β : Type} (origin : Origin) :
    Fields ρ β → List (String × Json) → List (Checked Unit)
  | .done, _ => []
  | .field key default _ s rest, ms =>
    (readField origin ms key default s).map (fun _ => ()) :: rest.outcomes origin ms

/-- **The fields are read together** if each of them is; otherwise the problems are those of the
fields, in order. -/
theorem Fields.read_of_outcomes {ρ β : Type} (origin : Origin) (ms : List (String × Json)) :
    ∀ fields : Fields ρ β,
      ((∀ r ∈ fields.outcomes origin ms, r = .ok ()) → ∃ b, fields.read origin ms = .ok b) ∧
      ((∃ r ∈ fields.outcomes origin ms, r ≠ .ok ()) →
        fields.read origin ms = .error ((fields.outcomes origin ms).flatMap problems))
  | .done => ⟨fun _ => ⟨(), rfl⟩, fun ⟨_, hr, _⟩ => absurd hr List.not_mem_nil⟩
  | .field key default get s rest => by
    obtain ⟨hok, herror⟩ := rest.read_of_outcomes origin ms
    have hread : (Fields.field key default get s rest).read origin ms =
        both (readField origin ms key default s) (rest.read origin ms) := rfl
    rw [hread, outcomes, List.flatMap_cons]
    by_cases hrest : ∀ r ∈ rest.outcomes origin ms, r = .ok ()
    · obtain ⟨b, hb⟩ := hok hrest
      have hnil : (rest.outcomes origin ms).flatMap problems = [] := by
        rw [List.flatMap_eq_nil_iff]
        intro r hr
        rw [hrest r hr]
        rfl
      rw [hb, hnil]
      cases readField origin ms key default s with
      | ok a =>
        refine ⟨fun _ => ⟨_, rfl⟩, fun ⟨r, hr, hne⟩ => ?_⟩
        rcases List.mem_cons.1 hr with rfl | hr
        · exact absurd rfl hne
        · exact absurd (hrest r hr) hne
      | error ps =>
        refine ⟨fun hall => (nomatch hall _ List.mem_cons_self), fun _ => ?_⟩
        simp [both, problems, Except.map]
    · have hsome : ∃ r ∈ rest.outcomes origin ms, r ≠ .ok () := by
        simpa using hrest
      rw [herror hsome]
      refine ⟨fun hall => absurd (fun r hr => hall r (List.mem_cons_of_mem _ hr)) hrest, fun _ => ?_⟩
      cases readField origin ms key default s <;> rfl

/-- The problems of the fields are each within some member. -/
theorem Fields.path_of_mem_outcomes {ρ β : Type} {origin : Origin} {ms : List (String × Json)} :
    ∀ {fields : Fields ρ β} {problem : Problem},
      problem ∈ (fields.outcomes origin ms).flatMap problems →
        ∃ name path, problem.path = .member name :: path
  | .done, _, h => absurd h List.not_mem_nil
  | .field key default get s rest, problem, h => by
    rw [outcomes, List.flatMap_cons, List.mem_append] at h
    rcases h with h | h
    · have hunder : ∀ {α : Type} (name : String) (r : Checked α),
          problem ∈ problems ((under (.member name) r).map fun _ => ()) →
            ∃ name path, problem.path = .member name :: path := by
        intro α name r hm
        cases r with
        | ok a => exact absurd hm List.not_mem_nil
        | error ps =>
          obtain ⟨p, -, rfl⟩ := List.mem_map.1 hm
          exact ⟨name, p.path, rfl⟩
      unfold readField at h
      split at h
      · exact hunder _ _ h
      · split at h
        · exact absurd h List.not_mem_nil
        · exact hunder _ _ h
    · exact path_of_mem_outcomes h

end Wire

open Wire

namespace Payload

/-! ## Slots -/

/-- The slots of a payload. -/
def slots (p : Payload) : Slots := fields.values p

/-- Which slots hold a value; every value counts, empty ones as well. -/
def holds : Slots → List Bool
  | (x, xs, n, ns, s, ss, members, ()) =>
    [x.isSome, xs.isSome, n.isSome, ns.isSome, s.isSome, ss.isSome, members.isSome]

/-- **The keys of the slots that hold a value**, in the order of declaration. -/
def heldKeys (slots : Slots) : List Key :=
  ((fields.keys.zip (holds slots)).filter Prod.snd).map Prod.fst

/-- **The values in the slots**, in the same order. -/
def contents : Slots → List Json
  | (x, xs, n, ns, s, ss, members, ()) =>
    [x.map .double, xs.map fun xs => .array (xs.map .double), n.map .int,
      ns.map fun ns => .array (ns.map .int), s.map .text,
      ss.map fun ss => .array (ss.map .text), members.map .ofDict].filterMap id

theorem populated_eq (slots : Slots) :
    (populated slots).map Prod.fst = (heldKeys slots).map Key.snake := by
  obtain ⟨x, xs, n, ns, s, ss, members, ⟨⟩⟩ := slots
  cases x <;> cases xs <;> cases n <;> cases ns <;> cases s <;> cases ss <;> cases members <;> rfl

theorem length_populated (slots : Slots) : (populated slots).length = (heldKeys slots).length := by
  have hlength := congrArg List.length (populated_eq slots)
  simpa using hlength

/-- A payload is made of its own slots, and of no others. -/
theorem ofSlots_eq_ok_iff {slots : Slots} {p : Payload} :
    ofSlots slots = .ok p ↔ p.slots = slots := by
  refine ⟨slots_of_ofSlots, ?_⟩
  rintro rfl
  cases p <;> rfl

/-- At most one value makes a payload. -/
theorem exists_ofSlots {slots : Slots} (h : (heldKeys slots).length ≤ 1) :
    ∃ p, ofSlots slots = .ok p := by
  rw [← length_populated] at h
  unfold ofSlots
  generalize populated slots = held at h ⊢
  rcases held with _ | ⟨⟨name, p⟩, _ | ⟨other, rest⟩⟩
  · exact ⟨_, rfl⟩
  · exact ⟨_, rfl⟩
  · exact absurd h (by simp)

/-- Several values make none, and their slots are named. -/
theorem ofSlots_of_several {slots : Slots} (h : 2 ≤ (heldKeys slots).length) :
    ofSlots slots = .error (.severalValues ((heldKeys slots).map Key.snake)) := by
  rw [← length_populated] at h
  rw [← populated_eq]
  unfold ofSlots
  generalize populated slots = held at h ⊢
  rcases held with _ | ⟨⟨name, p⟩, _ | ⟨other, rest⟩⟩
  · exact absurd h (by decide)
  · exact absurd h (by simp)
  · rfl

/-! ## Reading -/

/-- Whether an object has a value under a key, and not null. -/
def isGiven (ms : List (String × Json)) (key : Key) : Bool :=
  match key.find? ms with
  | some (_, .null) => false
  | some _ => true
  | none => false

/-- A slot holds a value exactly if the object has one; no value is read as null. -/
theorem isSome_of_readField {α : Type} {origin : Origin} {ms : List (String × Json)} {key : Key}
    {s : Shape α} {a? : Option α}
    (h : readField origin ms key (some none) (.nullable s) = .ok a?) :
    a?.isSome = isGiven ms key := by
  unfold readField at h
  unfold isGiven
  cases hk : key.find? ms with
  | none =>
    rw [hk] at h
    cases h
    rfl
  | some m =>
    obtain ⟨name, j⟩ := m
    rw [hk] at h
    have hread := under_eq_ok_iff.1 h
    cases j with
    | null =>
      cases hread
      rfl
    | _ =>
      obtain ⟨a, -, rfl⟩ := map_eq_ok_iff.1 hread
      rfl

/-- The slots that hold a value are those that the object gives one. -/
theorem heldKeys_of_read {origin : Origin} {ms : List (String × Json)} {slots : Slots}
    (h : fields.read origin ms = .ok slots) :
    heldKeys slots = fields.keys.filter (isGiven ms) := by
  obtain ⟨x, xs, n, ns, s, ss, members, ⟨⟩⟩ := slots
  obtain ⟨hx, h⟩ := both_eq_ok_iff.1 h
  obtain ⟨hxs, h⟩ := both_eq_ok_iff.1 h
  obtain ⟨hn, h⟩ := both_eq_ok_iff.1 h
  obtain ⟨hns, h⟩ := both_eq_ok_iff.1 h
  obtain ⟨hs, h⟩ := both_eq_ok_iff.1 h
  obtain ⟨hss, h⟩ := both_eq_ok_iff.1 h
  obtain ⟨hmembers, -⟩ := both_eq_ok_iff.1 h
  have hholds : holds (x, xs, n, ns, s, ss, members, ()) = fields.keys.map (isGiven ms) := by
    rw [holds, isSome_of_readField hx, isSome_of_readField hxs, isSome_of_readField hn,
      isSome_of_readField hns, isSome_of_readField hs, isSome_of_readField hss,
      isSome_of_readField hmembers]
    rfl
  rw [heldKeys, hholds]
  exact Groups.filter_zip_map_fst _ _ id

/-- **What the reader does with an object**, slot by slot. -/
structure ReadsSlots (origin : Origin) (ms : List (String × Json)) : Prop where
  /-- If a slot is not in order, the problems are those of the slots, none of them at the object
  itself. -/
  failing : (∃ r ∈ fields.outcomes origin ms, r ≠ .ok ()) →
    shape.read origin (.object ms) = .error ((fields.outcomes origin ms).flatMap problems) ∧
      ∀ problem ∈ (fields.outcomes origin ms).flatMap problems, problem.path ≠ []
  /-- If all slots are in order, those hold a value that are given one. -/
  held : (∀ r ∈ fields.outcomes origin ms, r = .ok ()) → ∃ slots,
    fields.read origin ms = .ok slots ∧ heldKeys slots = fields.keys.filter (isGiven ms)
  /-- At most one value makes a payload with just these slots. -/
  accepted : ∀ slots, fields.read origin ms = .ok slots →
    ((∃ p, shape.read origin (.object ms) = .ok p ∧ p.slots = slots) ↔
      (heldKeys slots).length ≤ 1)
  /-- Several values are one problem, at the object itself, that names their slots. -/
  rejected : ∀ slots, fields.read origin ms = .ok slots →
    (shape.read origin (.object ms) =
        .error [⟨[], .severalValues ((heldKeys slots).map Key.snake), .object ms⟩] ↔
      2 ≤ (heldKeys slots).length)

theorem read_object (origin : Origin) (ms : List (String × Json)) :
    shape.read origin (.object ms) =
      (fields.read origin ms).bind fun slots => orFail (.object ms) (ofSlots slots) := rfl

/-- **Which objects are payloads.** -/
theorem readsSlots (origin : Origin) (ms : List (String × Json)) : ReadsSlots origin ms := by
  obtain ⟨hok, herror⟩ := fields.read_of_outcomes origin ms
  have hone : ∀ slots, fields.read origin ms = .ok slots → (heldKeys slots).length ≤ 1 →
      ∃ p, shape.read origin (.object ms) = .ok p ∧ p.slots = slots := by
    intro slots hread hlength
    obtain ⟨p, hp⟩ := exists_ofSlots hlength
    rw [read_object, hread]
    exact ⟨p, orFail_eq_ok_iff.2 hp, ofSlots_eq_ok_iff.1 hp⟩
  have hseveral : ∀ slots, fields.read origin ms = .ok slots → 2 ≤ (heldKeys slots).length →
      shape.read origin (.object ms) =
        .error [⟨[], .severalValues ((heldKeys slots).map Key.snake), .object ms⟩] := by
    intro slots hread hlength
    rw [read_object, hread]
    show orFail _ (ofSlots slots) = _
    rw [ofSlots_of_several hlength]
    rfl
  constructor
  case failing =>
    intro hfailing
    refine ⟨?_, fun problem hm hnil => ?_⟩
    · rw [read_object, herror hfailing]
      rfl
    · obtain ⟨name, path, hpath⟩ := Fields.path_of_mem_outcomes hm
      rw [hpath] at hnil
      cases hnil
  case held =>
    intro hall
    obtain ⟨slots, hslots⟩ := hok hall
    exact ⟨slots, hslots, heldKeys_of_read hslots⟩
  case accepted =>
    intro slots hread
    refine ⟨?_, hone slots hread⟩
    rintro ⟨p, hp, -⟩
    by_contra hlength
    rw [hseveral slots hread (by omega)] at hp
    cases hp
  case rejected =>
    intro slots hread
    refine ⟨fun hrejected => ?_, hseveral slots hread⟩
    by_contra hlength
    obtain ⟨p, hp, -⟩ := hone slots hread (by omega)
    rw [hp] at hrejected
    cases hrejected

/-! ## One value -/

/-- **A payload that was let in**: its slots are those of an object. -/
def Admitted (p : Payload) : Prop := ∃ origin ms, fields.read origin ms = .ok p.slots

theorem admitted_of_read {origin : Origin} {j : Json} {p : Payload}
    (h : shape.read origin j = .ok p) : p.Admitted := by
  obtain ⟨ms, -, hread, -⟩ := Shape.exists_of_read_record (fun _ _ => slots_of_ofSlots) h
  exact ⟨origin, ms, hread⟩

theorem admitted_empty : Admitted .empty := ⟨.value, [], rfl⟩

/-- **A payload has at most one value**, and that it has none means the same everywhere. -/
structure HasOneValue (p : Payload) : Prop where
  admitted : p.Admitted
  atMostOne : (heldKeys p.slots).length ≤ 1
  /-- The value is the content of the slot that holds one. -/
  value : contents p.slots = p.value?.toList
  isEmpty_iff : p.isEmpty = true ↔ heldKeys p.slots = []
  sameValue_iff : p.isEmpty = true ↔ p.sameValue .empty = true
  wire_iff : p.isEmpty = true ↔ shape.wire? p = some (.object [])
  /-- The wire form has the key of the slot that holds a value. -/
  wire : p.isEmpty = false → shape.freeLevels p ≤ nestingLimit →
    ∃ key j, heldKeys p.slots = [key] ∧ shape.wire? p = some (.object [(key.camel, j)])
  /-- A value that nests too deeply has no wire form. -/
  deep : nestingLimit < shape.freeLevels p → shape.wire? p = none

theorem Admitted.hasOneValue {p : Payload} (h : p.Admitted) : p.HasOneValue := by
  have hwire : shape.freeLevels p ≤ nestingLimit → shape.wire? p = some (shape.wire p) :=
    fun hlevels => if_pos (decide_eq_true hlevels)
  have hone : p.isEmpty = false →
      ∃ key j, heldKeys p.slots = [key] ∧ shape.wire p = .object [(key.camel, j)] := by
    intro hp
    cases p with
    | empty => cases hp
    | _ => exact ⟨_, _, rfl, rfl⟩
  constructor
  case admitted => exact h
  case atMostOne =>
    cases p with
    | empty => exact Nat.zero_le 1
    | _ => exact Nat.le_refl 1
  case value => cases p <;> rfl
  case isEmpty_iff =>
    cases p with
    | empty => exact ⟨fun _ => rfl, fun _ => rfl⟩
    | _ => exact ⟨nofun, nofun⟩
  case sameValue_iff => cases p <;> simp [isEmpty, sameValue]
  case wire_iff =>
    constructor
    · intro hp
      cases p with
      | empty => rfl
      | _ => cases hp
    · intro hw
      by_contra hp
      obtain ⟨key, j, -, hkey⟩ := hone (Bool.eq_false_iff.2 hp)
      unfold Shape.wire? at hw
      split at hw
      · rw [hkey] at hw
        cases hw
      · cases hw
  case wire =>
    intro hp hlevels
    obtain ⟨key, j, hheld, hkey⟩ := hone hp
    exact ⟨key, j, hheld, by rw [hwire hlevels, hkey]⟩
  case deep => exact Shape.wire?_eq_none_iff.2

end Payload

/-! ## Contracts -/

/-- That the payload of a bucket, if there is one, was let in. -/
def Bucket.Admitted (b : Bucket) : Prop := ∀ p, b.payload = some p → p.Admitted

/-- That the payloads of a snapshot and of its definitions were let in. -/
structure Snapshot.Admitted (s : Snapshot) : Prop where
  bucket : ∀ e ∈ s.buckets.entries, e.2.Admitted
  declared : ∀ e ∈ s.definitions.entries, ∀ b ∈ e.2.buckets, b.Admitted

section Read

variable {origin : Origin} {j : Json}

theorem Bucket.admitted_of_read {b : Bucket} (h : shape.read origin j = .ok b) : b.Admitted := by
  intro p hp
  obtain ⟨ms, -, hread, -⟩ := Shape.exists_of_read_record lawful.2.1 h
  obtain ⟨-, hread⟩ := Fields.read_field_eq_ok_iff.1 hread
  obtain ⟨-, hread⟩ := Fields.read_field_eq_ok_iff.1 hread
  obtain ⟨-, hread⟩ := Fields.read_field_eq_ok_iff.1 hread
  obtain ⟨hpayload | ⟨-, hdefault⟩, -⟩ := Fields.read_field_eq_ok_iff.1 hread
  · obtain ⟨name, j, -, hj⟩ := hpayload
    exact Payload.admitted_of_read (Shape.of_read_nullable (hj.trans (congrArg Except.ok hp)))
  · cases (Option.some.inj hdefault).trans hp

theorem Definition.admitted_of_read {d : Definition} (h : shape.read origin j = .ok d) :
    ∀ b ∈ d.buckets, b.Admitted := by
  intro b hb
  obtain ⟨ms, -, hread, -⟩ := Shape.exists_of_read_record lawful.2.1 h
  obtain ⟨-, hread⟩ := Fields.read_field_eq_ok_iff.1 hread
  obtain ⟨-, hread⟩ := Fields.read_field_eq_ok_iff.1 hread
  obtain ⟨-, hread⟩ := Fields.read_field_eq_ok_iff.1 hread
  obtain ⟨-, hread⟩ := Fields.read_field_eq_ok_iff.1 hread
  obtain ⟨-, hread⟩ := Fields.read_field_eq_ok_iff.1 hread
  obtain ⟨-, hread⟩ := Fields.read_field_eq_ok_iff.1 hread
  obtain ⟨hbuckets | ⟨-, hdefault⟩, -⟩ := Fields.read_field_eq_ok_iff.1 hread
  · obtain ⟨name, j, -, hj⟩ := hbuckets
    obtain ⟨js, -, hjs⟩ := Shape.exists_of_read_sequence hj
    obtain ⟨j', -, hb'⟩ := hjs b hb
    exact Bucket.admitted_of_read hb'
  · have hnil : d.buckets = [] := (Option.some.inj hdefault).symm
    rw [hnil] at hb
    cases hb

/-- What holds of all values that are read, holds of the entries of a dictionary that is read from a
field or is empty by default. -/
theorem forall_entries_of_field {α : Type} {key : Key} {s : Shape α} {ms : List (String × Json)}
    {d : Dict α} {P : α → Prop}
    (h : (∃ name j, key.find? ms = some (name, j) ∧ (Shape.dict s).read origin j = .ok d) ∨
      (key.find? ms = none ∧ some Dict.empty = some d))
    (hP : ∀ j a, s.read origin j = .ok a → P a) : ∀ e ∈ d.entries, P e.2 := by
  intro e he
  rcases h with ⟨name, j, -, hj⟩ | ⟨-, hdefault⟩
  · obtain ⟨ms, -, hms⟩ := Shape.exists_of_read_dict hj
    obtain ⟨m, -, hm⟩ := hms e he
    exact hP m.2 e.2 hm
  · rw [← Option.some.inj hdefault] at he
    cases he

theorem Snapshot.admitted_of_read {s : Snapshot} (h : shape.read origin j = .ok s) :
    s.Admitted := by
  obtain ⟨ms, -, hread, -⟩ := Shape.exists_of_read_record lawful.2.1 h
  obtain ⟨-, hread⟩ := Fields.read_field_eq_ok_iff.1 hread
  obtain ⟨hbuckets, hread⟩ := Fields.read_field_eq_ok_iff.1 hread
  obtain ⟨-, hread⟩ := Fields.read_field_eq_ok_iff.1 hread
  obtain ⟨hdefinitions, -⟩ := Fields.read_field_eq_ok_iff.1 hread
  exact ⟨forall_entries_of_field hbuckets fun _ _ => Bucket.admitted_of_read,
    forall_entries_of_field hdefinitions fun _ _ => Definition.admitted_of_read⟩

end Read

/-- The buckets of a snapshot, and those of its definitions. -/
def Snapshot.allBuckets (s : Snapshot) : List Bucket :=
  s.buckets.entries.map Prod.snd ++ s.definitions.entries.flatMap fun e => e.2.buckets

theorem Snapshot.Admitted.of_mem_allBuckets {s : Snapshot} (h : s.Admitted) {b : Bucket}
    (hb : b ∈ s.allBuckets) : b.Admitted := by
  rcases List.mem_append.1 hb with hb | hb
  · obtain ⟨e, he, rfl⟩ := List.mem_map.1 hb
    exact h.bucket e he
  · obtain ⟨e, he, hb⟩ := List.mem_flatMap.1 hb
    exact h.declared e he b hb

/-- **The payloads in a contract.** -/
def Contract.payloads {α : Type} : Contract α → α → List Payload
  | .payload, p => [p]
  | .bucket, b => b.payload.toList
  | .range, _ => []
  | .allocation, _ => []
  | .definition, d => d.buckets.filterMap Bucket.payload
  | .snapshot, s => s.allBuckets.filterMap Bucket.payload

/-- **Payloads in a contract that was read** were let in, one contract after another. -/
theorem Contract.admitted_of_isValidated {α : Type} (c : Contract α) {x : α}
    (hx : c.shape.IsValidated x) : ∀ p ∈ c.payloads x, p.Admitted := by
  obtain ⟨origin, j, hread⟩ := hx.exists_read
  intro p hp
  cases c with
  | payload =>
    obtain rfl := List.mem_singleton.1 hp
    exact Payload.admitted_of_read hread
  | bucket => exact Bucket.admitted_of_read hread p (Option.mem_toList.1 hp)
  | range => cases hp
  | allocation => cases hp
  | definition =>
    obtain ⟨b, hb, hpayload⟩ := List.mem_filterMap.1 hp
    exact Definition.admitted_of_read hread b hb p hpayload
  | snapshot =>
    obtain ⟨b, hb, hpayload⟩ := List.mem_filterMap.1 hp
    exact (Snapshot.admitted_of_read hread).of_mem_allBuckets hb p hpayload

/-! ## Histories -/

theorem Bucket.admitted_bare (value : Int) : (Bucket.bare value).Admitted := fun _ hp => nomatch hp

/-- Where a bucket may come from, only payloads come along that were let in. -/
theorem Snapshot.Admitted.of_sourced {s : Snapshot} (h : s.Admitted) {test : String}
    {b : Bucket} (hb : s.Sourced test b) : b.Admitted := by
  cases hb with
  | described hb =>
    cases hb with
    | initial hb => exact h.bucket _ ((s.buckets.mem_entries_iff test b).2 hb)
    | declared hd hb =>
      exact h.declared _ ((s.definitions.mem_entries_iff test _).2 hd) b
        (Definition.mem_of_bucket? hb)
  | bare hbare _ =>
    rw [hbare]
    exact Bucket.admitted_bare _

namespace Groups

/-- **Payloads in a snapshot after any history** were let in. -/
theorem admitted_after {g : Groups} (h : g.snapshot.Admitted) (moves : List Move) :
    (g.after moves).snapshot.Admitted := by
  have hs : Snapshot.Descends g.snapshot.Sourced g.snapshot (g.after moves).snapshot := by
    refine descends_after g moves ((Snapshot.Descends.refl _).mono fun _ _ => .described) ?_
    intro g' _ _ hs test bucket hb
    exact (Snapshot.sourced_projectedBucket _ hb).trans hs
  constructor
  case bucket =>
    intro e he
    exact h.of_sourced (hs.bucket e.1 e.2 ((Dict.mem_entries_iff _ _ _).1 he))
  case declared =>
    rw [hs.definitions]
    exact h.declared

end Groups

/-! ## Replies -/

namespace Snapshot.Admitted

variable {s : Snapshot} {test : String} {b : Bucket}

theorem of_declared? (h : s.Admitted) {value : Int} (hb : s.declared? test value = some b) :
    b.Admitted := by
  obtain ⟨definition, hd, hb⟩ := Option.bind_eq_some_iff.1 hb
  exact h.declared _ ((s.definitions.mem_entries_iff test _).2 hd) b (Definition.mem_of_bucket? hb)

theorem of_carrier? (h : s.Admitted) {effective : Option Int}
    (hb : s.carrier? test effective = some b) : b.Admitted := by
  obtain ⟨determined, hd, hb⟩ := Option.bind_eq_some_iff.1 hb
  obtain ⟨e, -, hb⟩ := Option.bind_eq_some_iff.1 hb
  by_cases he : determined.value = e
  · rw [if_pos he] at hb
    cases hb
    exact h.bucket _ ((s.buckets.mem_entries_iff test _).2 hd)
  · rw [if_neg he] at hb
    exact h.of_declared? hb

end Snapshot.Admitted

theorem Bucket.Admitted.payloadOrEmpty {b : Bucket} (h : b.Admitted) :
    b.payloadOrEmpty.Admitted := by
  rw [Bucket.payloadOrEmpty]
  cases hb : b.payload with
  | none => exact Payload.admitted_empty
  | some p => exact h p hb

/-- That the payload of a fallback, if it is one, was let in. -/
def Fallback.Admitted (f : Fallback) : Prop := ∀ p, f.payload = some (.inl p) → p.Admitted

theorem Fallback.Admitted.metadata {f : Fallback} (h : f.Admitted) :
    f.metadata.payload.Admitted := by
  obtain ⟨value, description, payload⟩ := f
  match payload with
  | none => exact Payload.admitted_empty
  | some (.inr j) => exact Payload.admitted_empty
  | some (.inl p) => exact h p rfl

namespace Groups

/-- What the sources of a test found has a payload that was let in. -/
theorem admitted_of_mem_sources {s : Snapshot} (hs : s.Admitted) {test : String}
    {effective : Option Int} {fallback : Option Fallback}
    (hf : ∀ f, fallback = some f → f.Admitted) {m : Metadata}
    (hm : m ∈ (s.sources test effective (fallback.map Fallback.metadata)).filterMap
      Lookup.value?) : m.payload.Admitted := by
  obtain ⟨l, hl, hm⟩ := List.mem_filterMap.1 hm
  simp only [Snapshot.sources, List.mem_cons, List.not_mem_nil, or_false] at hl
  rcases hl with rfl | rfl | rfl
  · rw [Lookup.value?_map, Snapshot.value?_activeBucket] at hm
    obtain ⟨b, hb, rfl⟩ := Option.map_eq_some_iff.1 hm
    exact (hs.of_carrier? hb).payloadOrEmpty
  · rw [Lookup.value?_map, Snapshot.value?_fallbackDefinition] at hm
    obtain ⟨b, hb, rfl⟩ := Option.map_eq_some_iff.1 hm
    obtain ⟨f, -, hb⟩ := Option.bind_eq_some_iff.1 hb
    exact (hs.of_declared? hb).payloadOrEmpty
  · cases fallback with
    | none => cases hm
    | some f =>
      have hfm : m = f.metadata := by
        cases effective with
        | none => exact (Option.some.inj hm).symm
        | some e =>
          rw [Option.map_some, Snapshot.fallbackItself] at hm
          split at hm
          · exact (Option.some.inj hm).symm
          · cases hm
      rw [hfm]
      exact (hf f rfl).metadata

/-- **The payload of a test was let in**, whatever the hook. -/
theorem admitted_of_payloadFor {g : Groups} (hs : g.snapshot.Admitted) {test : String}
    {fallback : Option Fallback} (hf : ∀ f, fallback = some f → f.Admitted) {p : Payload}
    (h : g.payloadFor test fallback = .ok p) : p.Admitted := by
  rw [payloadFor_eq_map] at h
  cases ha : g.reply (.ask test) with
  | error k =>
    rw [Query.metadata, reply_bind, ha] at h
    cases h
  | ok e =>
    rw [reply_metadata ha, Facet.search_eq] at h
    split at h
    · obtain rfl := Except.ok.inj h
      cases hfound : ((g.snapshot.sources test e (fallback.map Fallback.metadata)).filterMap
          Lookup.value?).find? Facet.payload.isIn with
      | none => exact Payload.admitted_empty
      | some m => exact admitted_of_mem_sources hs hf (List.mem_of_find?_eq_some hfound)
    · cases h

end Groups

namespace Contract

/-- **At most one value, everywhere**: an object whose slots are in order is a payload exactly if at
most one of them holds a value; every payload in a contract that was read, in the snapshots of every
history and in every reply has at most one value, and that it has none means the same to its slots,
to its value, to equality and to the wire form. -/
theorem at_most_one_value :
    (∀ origin ms, Payload.ReadsSlots origin ms) ∧
    (∀ {α : Type} (c : Contract α) (x : α), c.shape.IsValidated x →
      ∀ p ∈ c.payloads x, p.HasOneValue) ∧
    ∀ (g : Groups) (moves : List Groups.Move), Snapshot.shape.IsValidated g.snapshot →
      (∀ p ∈ snapshot.payloads (g.after moves).snapshot, p.HasOneValue) ∧
      ∀ test fallback p,
        (∀ f q, fallback = some f → f.payload = some (.inl q) → Payload.shape.IsValidated q) →
        (g.after moves).payloadFor test fallback = .ok p → p.HasOneValue := by
  refine ⟨Payload.readsSlots, fun c x hx p hp => (c.admitted_of_isValidated hx p hp).hasOneValue,
    fun g moves hvalidated => ?_⟩
  obtain ⟨origin, j, hread⟩ := hvalidated.exists_read
  have hafter := Groups.admitted_after (Snapshot.admitted_of_read hread) moves
  constructor
  · intro p hp
    obtain ⟨b, hb, hpayload⟩ := List.mem_filterMap.1 hp
    exact (hafter.of_mem_allBuckets hb p hpayload).hasOneValue
  · intro test fallback p hfallback hp
    refine (Groups.admitted_of_payloadFor hafter (fun f hf q hq => ?_) hp).hasOneValue
    obtain ⟨origin, j, hread⟩ := (hfallback f q hf hq).exists_read
    exact Payload.admitted_of_read hread

/-- A document whose one test has a declared bucket with an empty map. -/
def bland : Snapshot where
  matrixVersion := ""
  buckets := .ofList [("t", .bare 1)]
  allocations := .empty
  definitions := .ofList [("t", ⟨"", "", none, none, none, .empty,
    [⟨"two", 2, "", some (.map .empty)⟩], []⟩)]

theorem isValidated_bland : Snapshot.shape.IsValidated bland :=
  .inr ⟨Snapshot.shape.toText .wire bland, Shape.ofText_toText_eq_ok_iff.2
    ⟨Snapshot.shape.write .wire bland, by decide +kernel, by decide +kernel⟩⟩

/-- After a hook has chosen the declared bucket, the test has the empty map, which is a value. -/
theorem at_most_one_value_bland : Snapshot.shape.IsValidated bland ∧
    ((⟨bland, fun _ _ _ => pure 2⟩ : Groups).after [.reproject .keep]).payloadFor "t" none =
      .ok (.map .empty) ∧
    ∃ key j, Payload.heldKeys (Payload.map .empty).slots = [key] ∧
      Payload.shape.wire? (.map .empty) = some (.object [(key.camel, j)]) := by
  have hreply : ((⟨bland, fun _ _ _ => pure 2⟩ : Groups).after [.reproject .keep]).payloadFor "t"
      none = .ok (.map .empty) := by
    decide +kernel
  have hone := (at_most_one_value.2.2 ⟨bland, fun _ _ _ => pure 2⟩ [.reproject .keep]
    isValidated_bland).2 "t" none (.map .empty) (fun _ _ hf => nomatch hf) hreply
  exact ⟨isValidated_bland, hreply, hone.wire rfl (by decide +kernel)⟩

/-- **Not every payload has a wire form**: one that nests too deeply is not written. -/
theorem not_wire_deep : Payload.shape.IsValidated (deep 255) ∧ (deep 255).isEmpty = false ∧
    Payload.shape.wire? (deep 255) = none := by
  refine ⟨isValidated_deep 255, rfl, Shape.wire?_eq_none_iff.2 ?_⟩
  rw [freeLevels_deep]
  decide

end Contract

end ExperimentGroups
