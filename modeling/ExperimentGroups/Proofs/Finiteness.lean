import ExperimentGroups.Proofs.Contracts

/-!
# Finite snapshots

A snapshot is finite if no payload in it and no constant is or holds a NaN or an infinity; the
shares of the traffic never are. Finite snapshots are those that are equal to themselves, and what
is equal to a finite one is finite. What is not finite is written as a null, so only finite values
are read back from what was written.

## Main definitions

* `Payload.IsFinite`, `Bucket.IsFinite`, `Definition.IsFinite`, `Snapshot.IsFinite`: no NaN and no
  infinity

## Main results

* `Snapshot.shape_isFinite_iff`: nothing but payloads and constants can hold a NaN or an infinity
* `Snapshot.sameValue_self`: a finite snapshot is equal to itself
* `Snapshot.isFinite_of_sameValue`: what is equal to a finite snapshot is finite
* `Wire.Shape.isFinite_of_read_write`: only finite values are read back
-/

namespace ExperimentGroups

namespace Double

theorem sameNumber_self {x : Double} (h : x.isFinite = true) : x.sameNumber x = true := by
  cases x with
  | finite => simp [sameNumber]
  | _ => cases h

theorem isFinite_of_sameNumber {x y : Double} (h : x.sameNumber y = true)
    (hy : y.isFinite = true) : x.isFinite = true := by
  cases x with
  | finite => rfl
  | nan => cases h
  | infinite negative =>
    cases y with
    | finite => cases h
    | _ => cases hy

theorem isFinite_of_sameAsInt {x : Double} {n : Int} (h : x.sameAsInt n = true) :
    x.isFinite = true := by
  cases x with
  | finite => rfl
  | _ => cases h

theorem isFinite_of_bounds {x : Double} (hone : x.atMostOne = true) (hzero : x.atLeastZero = true) :
    x.isFinite = true := by
  cases x with
  | finite => rfl
  | nan => cases hone
  | infinite negative => cases negative <;> [cases hone; cases hzero]

end Double

namespace Dict

variable {α : Type} {same : α → α → Bool}

theorem agree_self {d : Dict α} (h : ∀ e ∈ d.entries, same e.2 e.2 = true) :
    d.agree same d = true := by
  simp only [agree, beq_self_eq_true, Bool.true_and, List.all_eq_true]
  intro e he
  rw [(d.mem_entries_iff e.1 e.2).1 he]
  exact h e he

theorem exists_of_agree {d d' : Dict α} (h : d.agree same d' = true) {e : String × α}
    (he : e ∈ d.entries) : ∃ value, (e.1, value) ∈ d'.entries ∧ same e.2 value = true := by
  simp only [agree, Bool.and_eq_true, List.all_eq_true] at h
  have hentry := h.2 e he
  cases hget : d'.get? e.1 with
  | none =>
    rw [hget] at hentry
    cases hentry
  | some value =>
    rw [hget] at hentry
    exact ⟨value, (d'.mem_entries_iff e.1 value).2 hget, hentry⟩

end Dict

/-! ## Lists item by item -/

section Items

variable {α : Type} {same : α → α → Bool}

theorem all_zip_self {xs : List α} (h : ∀ x ∈ xs, same x x = true) :
    (xs.length == xs.length && (xs.zip xs).all fun p => same p.1 p.2) = true := by
  rw [beq_self_eq_true, Bool.true_and]
  induction xs with
  | nil => rfl
  | cons x xs ih =>
    rw [List.zip_cons_cons, List.all_cons, h x List.mem_cons_self,
      ih fun y hy => h y (List.mem_cons_of_mem x hy), Bool.and_self]

theorem exists_of_all_zip {xs ys : List α}
    (h : (xs.length == ys.length && (xs.zip ys).all fun p => same p.1 p.2) = true) :
    ∀ x ∈ xs, ∃ y ∈ ys, same x y = true := by
  rw [Bool.and_eq_true, beq_iff_eq] at h
  obtain ⟨hlength, hall⟩ := h
  induction xs generalizing ys with
  | nil => exact fun x hx => absurd hx List.not_mem_nil
  | cons x xs ih =>
    cases ys with
    | nil => cases hlength
    | cons y ys =>
      rw [List.zip_cons_cons, List.all_cons, Bool.and_eq_true] at hall
      intro z hz
      rcases List.mem_cons.1 hz with rfl | hz
      · exact ⟨y, List.mem_cons_self, hall.1⟩
      · obtain ⟨y', hy', hsame⟩ := ih (Nat.succ.inj hlength) hall.2 z hz
        exact ⟨y', List.mem_cons_of_mem _ hy', hsame⟩

end Items

/-! ## Free-form values -/

namespace Json

theorem sameValues_self {xs : List Json} (h : ∀ x ∈ xs, x.sameValue x = true) :
    sameValues xs xs = true := by
  induction xs with
  | nil => rfl
  | cons x xs ih =>
    rw [sameValues, h x List.mem_cons_self, ih fun y hy => h y (List.mem_cons_of_mem x hy)]
    rfl

theorem exists_of_sameValues {xs ys : List Json} (h : sameValues xs ys = true) :
    ∀ x ∈ xs, ∃ y ∈ ys, x.sameValue y = true := by
  induction xs generalizing ys with
  | nil => exact fun x hx => absurd hx List.not_mem_nil
  | cons x xs ih =>
    cases ys with
    | nil => cases h
    | cons y ys =>
      rw [sameValues, Bool.and_eq_true] at h
      intro z hz
      rcases List.mem_cons.1 hz with rfl | hz
      · exact ⟨y, List.mem_cons_self, h.1⟩
      · obtain ⟨y', hy', hsame⟩ := ih h.2 z hz
        exact ⟨y', List.mem_cons_of_mem _ hy', hsame⟩

theorem sameEntries_iff (ms ns : List (String × Json)) :
    sameEntries ms ns = true ↔
      ∀ m ∈ ms, ∃ y, Dict.findEntry m.1 ns = some y ∧ m.2.sameValue y = true := by
  induction ms with
  | nil => simp [sameEntries]
  | cons m ms ih =>
    rw [sameEntries, Bool.and_eq_true, ih, List.forall_mem_cons]
    cases Dict.findEntry m.1 ns <;> simp

/-- A settled object has no name twice, and its members are settled. -/
theorem settled_object {ms : List (String × Json)} (h : (Json.object ms).settled = .object ms) :
    (ms.map Prod.fst).Nodup ∧ ∀ m ∈ ms, m.2.settled = m.2 := by
  have hms : (Dict.ofList (settledMembers ms)).entries = ms := Json.object.inj h
  refine ⟨hms ▸ (Dict.ofList (settledMembers ms)).distinct, fun m hm => ?_⟩
  rw [← hms] at hm
  have hm := Dict.mem_of_mem_ofList hm
  rw [settledMembers_eq_map] at hm
  obtain ⟨m', -, rfl⟩ := List.mem_map.1 hm
  exact m'.2.settled_settled

theorem settled_array {xs : List Json} (h : (Json.array xs).settled = .array xs) :
    ∀ x ∈ xs, x.settled = x := by
  have hxs : settledItems xs = xs := Json.array.inj h
  intro x hx
  rw [← hxs, settledItems_eq_map] at hx
  obtain ⟨x', -, rfl⟩ := List.mem_map.1 hx
  exact x'.settled_settled

theorem sameValue_self {j : Json} (hsettled : j.settled = j) (hfinite : j.isFinite = true) :
    j.sameValue j = true := by
  induction j using induct with
  | null => rfl
  | bool b => cases b <;> rfl
  | int n => exact beq_self_eq_true n
  | double x => exact x.sameNumber_self hfinite
  | text s => exact beq_self_eq_true s
  | array xs ih =>
    rw [isFinite, itemsFinite_iff] at hfinite
    exact sameValues_self fun x hx => ih x hx (settled_array hsettled x hx) (hfinite x hx)
  | object ms ih =>
    rw [isFinite, membersFinite_iff] at hfinite
    obtain ⟨hnodup, hmembers⟩ := settled_object hsettled
    rw [sameValue, beq_self_eq_true, Bool.true_and, sameEntries_iff]
    exact fun m hm => ⟨m.2, (Dict.findEntry_eq_some_iff m.1 m.2 hnodup).2 hm,
      ih m hm (hmembers m hm) (hfinite m hm)⟩

theorem isFinite_of_sameValue {a b : Json} (h : a.sameValue b = true) (hb : b.isFinite = true) :
    a.isFinite = true := by
  induction a using induct generalizing b with
  | double x =>
    cases b with
    | double y => exact Double.isFinite_of_sameNumber h hb
    | int n => exact Double.isFinite_of_sameAsInt h
    | bool b => exact Double.isFinite_of_sameAsInt h
    | _ => cases h
  | array xs ih =>
    cases b with
    | array ys =>
      rw [isFinite, itemsFinite_iff] at hb ⊢
      intro x hx
      obtain ⟨y, hy, hsame⟩ := exists_of_sameValues h x hx
      exact ih x hx hsame (hb y hy)
    | _ => cases h
  | object ms ih =>
    cases b with
    | object ns =>
      rw [isFinite, membersFinite_iff] at hb ⊢
      rw [sameValue, Bool.and_eq_true, sameEntries_iff] at h
      intro m hm
      obtain ⟨y, hy, hsame⟩ := h.2 m hm
      exact ih m hm hsame (hb _ (Dict.mem_of_findEntry hy))
    | _ => cases h
  | null => rfl
  | bool b => rfl
  | int n => rfl
  | text s => rfl

end Json

/-! ## Snapshots -/

/-- **A payload without NaN and infinities.** -/
def Payload.IsFinite (p : Payload) : Prop := ∀ j, p.value? = some j → j.isFinite = true

/-- A bucket without them. -/
def Bucket.IsFinite (b : Bucket) : Prop := ∀ p, b.payload = some p → p.IsFinite

/-- A definition without them. -/
def Definition.IsFinite (d : Definition) : Prop :=
  (∀ e ∈ d.constants.entries, e.2.isFinite = true) ∧ ∀ b ∈ d.buckets, b.IsFinite

/-- **A snapshot without NaN and infinities**: its buckets and its definitions are without them. -/
def Snapshot.IsFinite (s : Snapshot) : Prop :=
  (∀ e ∈ s.buckets.entries, e.2.IsFinite) ∧ ∀ e ∈ s.definitions.entries, e.2.IsFinite

namespace Payload

theorem shape_isFinite_iff (p : Payload) : shape.isFinite p = true ↔ p.IsFinite := by
  cases p <;>
    simp [shape, fields, Wire.Shape.isFinite, Wire.Fields.isFinite, double?, doubles?, long?, longs?,
      text?, texts?, map?, IsFinite, value?, Json.isFinite, Json.itemsFinite_iff,
      Json.membersFinite_iff, Json.ofDict]

theorem sameValue_self {p : Payload} (hholds : shape.Holds p) (hfinite : p.IsFinite) :
    p.sameValue p = true := by
  cases p with
  | double x => exact x.sameNumber_self (hfinite _ rfl)
  | doubles xs =>
    have hfinite := hfinite _ rfl
    rw [Json.isFinite, Json.itemsFinite_iff, List.forall_mem_map] at hfinite
    exact all_zip_self fun x hx => x.sameNumber_self (hfinite x hx)
  | map members =>
    have hfinite := hfinite _ rfl
    rw [Json.ofDict, Json.isFinite, Json.membersFinite_iff] at hfinite
    obtain ⟨_, _, _, _, _, _, hsettled, _⟩ := hholds.1
    exact Dict.agree_self fun e he => Json.sameValue_self (hsettled e he) (hfinite e he)
  | empty => rfl
  | long n => exact beq_self_eq_true n
  | longs ns => exact beq_self_eq_true ns
  | text s => exact beq_self_eq_true s
  | texts ss => exact beq_self_eq_true ss

theorem isFinite_of_sameValue {p q : Payload} (h : p.sameValue q = true) (hq : q.IsFinite) :
    p.IsFinite := by
  rintro j hj
  cases p with
  | double x =>
    cases hj
    cases q with
    | double y => exact Double.isFinite_of_sameNumber h (hq _ rfl)
    | _ => cases h
  | doubles xs =>
    cases hj
    cases q with
    | doubles ys =>
      have hq := hq _ rfl
      rw [Json.isFinite, Json.itemsFinite_iff, List.forall_mem_map] at hq ⊢
      intro x hx
      obtain ⟨y, hy, hsame⟩ := exists_of_all_zip h x hx
      exact Double.isFinite_of_sameNumber hsame (hq y hy)
    | _ => cases h
  | map members =>
    cases hj
    cases q with
    | map others =>
      have hq := hq _ rfl
      rw [Json.ofDict, Json.isFinite, Json.membersFinite_iff] at hq ⊢
      intro m hm
      obtain ⟨y, hy, hsame⟩ := Dict.exists_of_agree h hm
      exact Json.isFinite_of_sameValue hsame (hq _ hy)
    | _ => cases h
  | empty => cases hj
  | long n =>
    cases hj
    rfl
  | longs ns =>
    cases hj
    rw [Json.isFinite, Json.itemsFinite_iff, List.forall_mem_map]
    exact fun _ _ => rfl
  | text s =>
    cases hj
    rfl
  | texts ss =>
    cases hj
    rw [Json.isFinite, Json.itemsFinite_iff, List.forall_mem_map]
    exact fun _ _ => rfl

end Payload

namespace Bucket

theorem shape_isFinite_iff (b : Bucket) : shape.isFinite b = true ↔ b.IsFinite := by
  rcases b with ⟨name, value, description, _ | p⟩
  · simp [shape, Wire.Shape.isFinite, Wire.Fields.isFinite, IsFinite]
  · simp [shape, Wire.Shape.isFinite, Wire.Fields.isFinite, IsFinite, Payload.shape_isFinite_iff]

theorem sameValue_self {b : Bucket} (hholds : shape.Holds b) (hfinite : b.IsFinite) :
    b.sameValue b = true := by
  obtain ⟨name, value, description, payload⟩ := b
  obtain ⟨_, _, _, hpayload, _⟩ := hholds.1
  cases payload with
  | none => simp [sameValue]
  | some p => simp [sameValue, p.sameValue_self hpayload (hfinite p rfl)]

theorem isFinite_of_sameValue {b c : Bucket} (h : b.sameValue c = true) (hc : c.IsFinite) :
    b.IsFinite := by
  intro p hp
  rw [sameValue, Bool.and_eq_true, hp] at h
  cases hq : c.payload with
  | none =>
    rw [hq] at h
    cases h.2
  | some q =>
    rw [hq] at h
    exact Payload.isFinite_of_sameValue h.2 (hc q hq)

end Bucket

namespace Allocation

/-- The shares of an allocation are between zero and one. -/
theorem isFinite_length {a : Allocation} (hholds : shape.Holds a) :
    ∀ r ∈ a.ranges, r.length.isFinite = true := by
  obtain ⟨_, hranges, _⟩ := hholds.1
  intro r hr
  obtain ⟨_, hlength, _⟩ := (hranges r hr).1
  exact Double.isFinite_of_bounds hlength.1 hlength.2

theorem shape_isFinite {a : Allocation} (hholds : shape.Holds a) : shape.isFinite a = true := by
  have hranges : (a.ranges.all fun r => Range.shape.isFinite r) = true := by
    rw [List.all_eq_true]
    intro r hr
    simp [Range.shape, Wire.Shape.isFinite, Wire.Fields.isFinite, isFinite_length hholds r hr]
  rcases a with ⟨_ | rule, ranges, id⟩ <;>
    simpa [shape, Wire.Shape.isFinite, Wire.Fields.isFinite] using hranges

theorem sameValue_self {a : Allocation} (hholds : shape.Holds a) : a.sameValue a = true := by
  have hranges : ∀ r ∈ a.ranges, r.sameValue r = true := fun r hr => by
    simp [Range.sameValue, r.length.sameNumber_self (isFinite_length hholds r hr)]
  have hzip := all_zip_self hranges
  rw [beq_self_eq_true, Bool.true_and] at hzip
  simp [sameValue, hzip]

end Allocation

namespace Definition

theorem shape_isFinite_iff {d : Definition} (hholds : shape.Holds d) :
    shape.isFinite d = true ↔ d.IsFinite := by
  obtain ⟨_, _, _, _, _, _, _, hallocations, _⟩ := hholds.1
  have hallocations : ∀ a ∈ d.allocations, Allocation.shape.isFinite a = true :=
    fun a ha => Allocation.shape_isFinite (hallocations a ha)
  have htext : ∀ t : Option String, (Wire.Shape.nullable (.text 0 none)).isFinite t = true := by
    rintro (_ | _) <;> rfl
  show (true && (true && ((Wire.Shape.nullable (.text 0 none)).isFinite d.testType &&
    ((Wire.Shape.nullable (.text 0 none)).isFinite d.description &&
      ((Wire.Shape.nullable (.text 0 none)).isFinite d.rule &&
        ((d.constants.entries.all fun e => e.2.isFinite) &&
          ((d.buckets.all fun b => Bucket.shape.isFinite b) &&
            ((d.allocations.all fun a => Allocation.shape.isFinite a) && true)))))))) = true ↔ _
  simp only [htext, List.all_eq_true.2 hallocations, Bool.true_and, Bool.and_true, Bool.and_eq_true,
    List.all_eq_true, Bucket.shape_isFinite_iff]
  rfl

theorem sameValue_self {d : Definition} (hholds : shape.Holds d) (hfinite : d.IsFinite) :
    d.sameValue d = true := by
  obtain ⟨_, _, _, _, _, hconstants, hbuckets, hallocations, _⟩ := hholds.1
  simp only [sameValue, Bool.and_eq_true, beq_self_eq_true, true_and]
  refine ⟨⟨?_, ?_⟩, ?_⟩
  · exact Dict.agree_self fun e he => Json.sameValue_self (hconstants e he) (hfinite.1 e he)
  · have hzip := all_zip_self fun b hb => Bucket.sameValue_self (hbuckets b hb) (hfinite.2 b hb)
    rwa [beq_self_eq_true, Bool.true_and] at hzip
  · have hzip := all_zip_self fun a ha => Allocation.sameValue_self (hallocations a ha)
    rwa [beq_self_eq_true, Bool.true_and] at hzip

theorem isFinite_of_sameValue {d e : Definition} (h : d.sameValue e = true) (he : e.IsFinite) :
    d.IsFinite := by
  rw [sameValue, Bool.and_eq_true, Bool.and_eq_true, Bool.and_eq_true] at h
  obtain ⟨⟨⟨_, hconstants⟩, hbuckets⟩, _⟩ := h
  refine ⟨fun c hc => ?_, fun b hb => ?_⟩
  · obtain ⟨y, hy, hsame⟩ := Dict.exists_of_agree hconstants hc
    exact Json.isFinite_of_sameValue hsame (he.1 _ hy)
  · obtain ⟨c, hc, hsame⟩ := exists_of_all_zip hbuckets b hb
    exact Bucket.isFinite_of_sameValue hsame (he.2 c hc)

end Definition

namespace Snapshot

/-- **Nothing but payloads and constants can hold a NaN or an infinity.** -/
theorem shape_isFinite_iff {s : Snapshot} (hholds : shape.Holds s) :
    shape.isFinite s = true ↔ s.IsFinite := by
  obtain ⟨_, _, hallocations, hdefinitions, _⟩ := hholds.1
  have hallocations : ∀ e ∈ s.allocations.entries, Allocation.shape.isFinite e.2 = true :=
    fun e he => Allocation.shape_isFinite (hallocations e he)
  have hdefinitions : ∀ e ∈ s.definitions.entries,
      (Definition.shape.isFinite e.2 = true ↔ e.2.IsFinite) :=
    fun e he => Definition.shape_isFinite_iff (hdefinitions e he)
  show (true && ((s.buckets.entries.all fun e => Bucket.shape.isFinite e.2) &&
    ((s.allocations.entries.all fun e => Allocation.shape.isFinite e.2) &&
      ((s.definitions.entries.all fun e => Definition.shape.isFinite e.2) && true)))) = true ↔ _
  rw [List.all_eq_true.2 hallocations, Bool.true_and, Bool.true_and, Bool.and_true,
    Bool.and_eq_true, List.all_eq_true, List.all_eq_true]
  exact and_congr (forall₂_congr fun e _ => Bucket.shape_isFinite_iff e.2)
    (forall₂_congr hdefinitions)

/-- **A finite snapshot is equal to itself.** -/
theorem sameValue_self {s : Snapshot} (hholds : shape.Holds s) (hfinite : s.IsFinite) :
    s.sameValue s = true := by
  obtain ⟨_, hbuckets, hallocations, hdefinitions, _⟩ := hholds.1
  simp only [sameValue, Bool.and_eq_true, beq_self_eq_true, true_and]
  refine ⟨⟨?_, ?_⟩, ?_⟩
  · exact Dict.agree_self fun e he => Bucket.sameValue_self (hbuckets e he) (hfinite.1 e he)
  · exact Dict.agree_self fun e he => Allocation.sameValue_self (hallocations e he)
  · exact Dict.agree_self fun e he =>
      Definition.sameValue_self (hdefinitions e he) (hfinite.2 e he)

/-- **What is equal to a finite snapshot is finite.** -/
theorem isFinite_of_sameValue {s t : Snapshot} (h : s.sameValue t = true) (ht : t.IsFinite) :
    s.IsFinite := by
  simp only [sameValue, Bool.and_eq_true] at h
  obtain ⟨⟨⟨_, hbuckets⟩, _⟩, hdefinitions⟩ := h
  refine ⟨fun e he => ?_, fun e he => ?_⟩
  · obtain ⟨b, hb, hsame⟩ := Dict.exists_of_agree hbuckets he
    exact Bucket.isFinite_of_sameValue hsame (ht.1 _ hb)
  · obtain ⟨d, hd, hsame⟩ := Dict.exists_of_agree hdefinitions he
    exact Definition.isFinite_of_sameValue hsame (ht.2 _ hd)

end Snapshot

/-! ## What is read back -/

namespace Wire

mutual

/-- **Only finite values are read back** from what was written with a null for what is not. -/
theorem Shape.isFinite_of_read_write {α : Type} (origin : Origin) (style : Style) :
    ∀ (s : Shape α) {a b : α}, s.Lawful →
      s.read origin (s.write style a).dropNonFinite = .ok b → s.isFinite b = true
  | .text _ _, _, _, _, _ => rfl
  | .choice _ _, _, _, _, _ => rfl
  | .integer, _, _, _, _ => rfl
  | .double, x, y, _, h => by
    rw [Shape.write, Json.dropNonFinite] at h
    split at h
    · next hfinite =>
      cases h
      exact hfinite
    · cases h
  | .share, x, y, hlawful, h => by
    obtain ⟨hone, hzero⟩ := Shape.share.holds_of_read hlawful h
    exact Double.isFinite_of_bounds hone hzero
  | .anything, j, k, _, h => by
    rw [Shape.read_anything] at h
    cases h
    exact Json.isFinite_settled (Json.isFinite_dropNonFinite _)
  | .nullable _, _, none, _, _ => rfl
  | .nullable _, none, some _, _, h => by cases h
  | .nullable s, some a, some b, hlawful, h => by
    exact s.isFinite_of_read_write origin style hlawful.2 (Shape.of_read_nullable h)
  | .sequence kind s, xs, ys, hlawful, h => by
    rw [Shape.write, Json.dropNonFinite, Json.dropNonFiniteItems_eq_map, List.map_map] at h
    obtain ⟨js, hjs, hitems⟩ := Shape.exists_of_read_sequence h
    cases hjs
    refine List.all_eq_true.2 fun y hy => ?_
    obtain ⟨j, hj, hread⟩ := hitems y hy
    obtain ⟨x, -, rfl⟩ := List.mem_map.1 hj
    exact s.isFinite_of_read_write origin style hlawful hread
  | .dict s, d, d', hlawful, h => by
    rw [Shape.write, Json.dropNonFinite, Json.dropNonFiniteMembers_eq_map, Dict.map,
      List.map_map] at h
    obtain ⟨ms, hms, hentries⟩ := Shape.exists_of_read_dict h
    cases hms
    refine List.all_eq_true.2 fun e he => ?_
    obtain ⟨m, hm, hread⟩ := hentries e he
    obtain ⟨e', -, rfl⟩ := List.mem_map.1 hm
    exact s.isFinite_of_read_write origin style hlawful hread
  | .record fields make, a, b, hlawful, h => by
    obtain ⟨hapart, hmake, hfields⟩ := hlawful
    rw [Shape.write, Json.dropNonFinite, Json.dropNonFiniteMembers_eq_map] at h
    obtain ⟨ms, hms, hread, -⟩ := Shape.exists_of_read_record hmake h
    cases hms
    exact fields.isFinite_of_read_write origin style hfields hapart []
      (fun _ _ _ hm => absurd hm List.not_mem_nil) hread

theorem Fields.isFinite_of_read_write {ρ β : Type} (origin : Origin) (style : Style) :
    ∀ (fields : Fields ρ β) {r r' : ρ}, fields.Lawful → fields.keys.Pairwise Key.Apart →
      ∀ pre : List (String × Json), (∀ key ∈ fields.keys, key.Unused pre) →
        fields.read origin ((pre ++ fields.write style r).map fun m => (m.1, m.2.dropNonFinite)) =
          .ok (fields.values r') → fields.isFinite r' = true
  | .done, _, _, _, _, _, _, _ => rfl
  | .field key default get s rest, r, r', hlawful, hapart, pre, hpre, h => by
    obtain ⟨hs, hdefault, _, hrest⟩ := hlawful
    obtain ⟨hkey, hkeys⟩ := List.pairwise_cons.1 hapart
    obtain ⟨hfield, htail⟩ := Fields.read_field_eq_ok_iff.1 h
    rw [Fields.isFinite, Bool.and_eq_true]
    constructor
    · rw [Key.find?_map, Fields.write, Key.find?_member (hpre key List.mem_cons_self)
        (rest.unused_write style r hkey)] at hfield
      rcases hfield with ⟨name, j, hfind, hread⟩ | ⟨_, hnone⟩
      · obtain ⟨m, hm, hj⟩ := Option.map_eq_some_iff.1 hfind
        obtain rfl := Style.eq_of_mem_member (List.mem_of_mem_head? hm)
        cases hj
        exact s.isFinite_of_read_write origin style hs hread
      · exact (hdefault _ hnone).finite
    · rw [Fields.write, ← List.append_assoc] at htail
      refine rest.isFinite_of_read_write origin style hrest hkeys _ (fun other hother => ?_) htail
      exact (hpre other (List.mem_cons_of_mem _ hother)).append
        ((hkey other hother).symm.unused_member style _)

end

end Wire

end ExperimentGroups
