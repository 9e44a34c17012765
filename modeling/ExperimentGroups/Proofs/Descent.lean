import ExperimentGroups.Proofs.Finiteness
import ExperimentGroups.Proofs.Independence

/-!
# Projections within the limits of a snapshot

Every bucket of a projection under rules is a bucket of the snapshot, or one that a definition in it
declares. So the projection satisfies the conditions that the snapshot satisfies, and what was read
from a document is projected to what can be written and read again. In particular no effective value
is too long to be written.

## Main results

* `Snapshot.Descends.holds`, `Snapshot.Descends.fits_write`: what descends from a snapshot keeps its
  conditions and its limits
* `Override.descends_projected`: a projection under rules descends from the snapshot
* `Override.isWithinDigits_of_valueOf`: no effective value is too long to be written
-/

namespace ExperimentGroups

namespace Snapshot

variable {s p : Snapshot}

/-- What all buckets of a snapshot and of its definitions satisfy, every bucket satisfies that is
described. -/
theorem Described.of_forall {P : Bucket → Prop} (hbuckets : ∀ e ∈ s.buckets.entries, P e.2)
    (hdefinitions : ∀ e ∈ s.definitions.entries, ∀ b ∈ e.2.buckets, P b) {test : String}
    {bucket : Bucket} (h : s.Described test bucket) : P bucket := by
  cases h with
  | initial h => exact hbuckets _ ((s.buckets.mem_entries_iff test bucket).2 h)
  | declared hdefinition h =>
    exact hdefinitions _ ((s.definitions.mem_entries_iff test _).2 hdefinition) bucket
      (Definition.mem_of_bucket? h)

theorem Descends.forall_bucket {P : Bucket → Prop} (hs : Descends s.Described s p)
    (hbuckets : ∀ e ∈ s.buckets.entries, P e.2)
    (hdefinitions : ∀ e ∈ s.definitions.entries, ∀ b ∈ e.2.buckets, P b) :
    ∀ e ∈ p.buckets.entries, P e.2 := fun e he =>
  (hs.bucket e.1 e.2 ((p.buckets.mem_entries_iff e.1 e.2).1 he)).of_forall hbuckets hdefinitions

/-- **What descends from a snapshot satisfies its conditions.** -/
theorem Descends.holds (hs : Descends s.Described s p) (h : shape.Holds s) : shape.Holds p := by
  obtain ⟨hversion, hbuckets, hallocations, hdefinitions, _⟩ := h.1
  refine And.intro (And.intro ?_ (And.intro ?_ (And.intro ?_ (And.intro ?_ trivial)))) rfl
  · exact hs.matrixVersion ▸ hversion
  · refine hs.forall_bucket hbuckets fun e he => ?_
    obtain ⟨_, _, _, _, _, _, hdeclared, _⟩ := (hdefinitions e he).1
    exact hdeclared
  · exact hs.allocations ▸ hallocations
  · exact hs.definitions ▸ hdefinitions

/-- The members of a snapshot as it is written: none of them is left out. -/
theorem write_shape (style : Wire.Style) (s : Snapshot) :
    shape.write style s = .object
      [(style.name ⟨"matrixVersion", "matrix_version"⟩, .text s.matrixVersion),
        (style.name (.plain "buckets"), (Wire.Shape.dict Bucket.shape).write style s.buckets),
        (style.name (.plain "allocations"),
          (Wire.Shape.dict Allocation.shape).write style s.allocations),
        (style.name ⟨"testDefinitions", "test_definitions"⟩,
          (Wire.Shape.dict Definition.shape).write style s.definitions)] := rfl

/-- The buckets of a snapshot within the limits of the reader, and those that its definitions
declare, have room for all that is in them. -/
theorem fits_bucket {style : Wire.Style} {room : Nat}
    (h : Json.Fits (room + 5) (shape.write style s)) :
    (∀ e ∈ s.buckets.entries, Json.Fits (room + 3) (Bucket.shape.write style e.2)) ∧
      ∀ e ∈ s.definitions.entries, ∀ b ∈ e.2.buckets,
        Json.Fits (room + 1) (Bucket.shape.write style b) := by
  rw [write_shape] at h
  constructor
  · intro e he
    exact (h.of_mem (.tail _ (.head _))).of_mem (List.mem_map.2 ⟨e, he, rfl⟩)
  · intro e he b hb
    have hdefinition := (h.of_mem (.tail _ (.tail _ (.tail _ (.head _))))).of_mem
      (List.mem_map.2 ⟨e, he, rfl⟩)
    -- Of the members of the definition, those that are null may be left out.
    have hdeclared := hdefinition.of_mem (m := (style.name (.plain "buckets"),
      (Wire.Shape.sequence .list Bucket.shape).write style e.2.buckets))
      (List.mem_append_right _ <| List.mem_append_right _ <| List.mem_append_right _ <|
        List.mem_append_right _ <| List.mem_append_right _ <| List.mem_append_right _ <|
          List.mem_append_left _ (List.mem_singleton_self _))
    exact hdeclared.of_mem_items (List.mem_map.2 ⟨b, hb, rfl⟩)

/-- **What descends from a snapshot is written within the same limits.** -/
theorem Descends.fits_write (hs : Descends s.Described s p) {style : Wire.Style} {room : Nat}
    (h : Json.Fits (room + 5) (shape.write style s)) :
    Json.Fits (room + 5) (shape.write style p) := by
  obtain ⟨hbuckets, hdefinitions⟩ := fits_bucket h
  have hall := hs.forall_bucket (P := fun b => Json.Fits (room + 3) (Bucket.shape.write style b))
    hbuckets fun e he b hb => (hdefinitions e he b hb).mono (by omega)
  rw [write_shape] at h ⊢
  rw [hs.matrixVersion, hs.allocations, hs.definitions]
  refine .object (fun _ => by omega) fun m hm => ?_
  simp only [List.mem_cons, List.not_mem_nil, or_false] at hm
  rcases hm with rfl | rfl | rfl | rfl
  · exact .text
  · refine .object (fun _ => by omega) fun m hm => ?_
    obtain ⟨e, he, rfl⟩ := List.mem_map.1 hm
    exact hall e he
  · exact h.of_mem (.tail _ (.tail _ (.head _)))
  · exact h.of_mem (.tail _ (.tail _ (.tail _ (.head _))))

end Snapshot

namespace Override

variable {s : Snapshot} {plan? : Option (Plan Override)}

/-- **A projection under rules descends from the snapshot**: every bucket in it is described. -/
theorem descends_projected (h : (presentHoldouts s (rules plan?)).Subsingleton) :
    Snapshot.Descends s.Described s (s.projected (groups s plan?).valueOf) :=
  Snapshot.descends_projected (.refl s) fun _ _ hb => described_projectedBucket h hb

theorem reply_projection_rules (h : (presentHoldouts s (rules plan?)).Subsingleton) :
    (groups s plan?).reply (.projection s (hookOf plan?)) =
      .ok (s.projected (groups s plan?).valueOf) :=
  Groups.reply_projection (resolves h) (projectable h)

/-- The projection under rules. -/
theorem exists_projection_rules (h : (presentHoldouts s (rules plan?)).Subsingleton) :
    ∃ log, (groups s plan?).projection = .ok ⟨s.projected (groups s plan?).valueOf, log⟩ :=
  Groups.run_of_reply (reply_projection_rules h)

/-- **No effective value is too long to be written**, if the snapshot is within the limits of a
reader. -/
theorem isWithinDigits_of_valueOf (h : (presentHoldouts s (rules plan?)).Subsingleton)
    {style : Wire.Style} {room : Nat} (hfits : Json.Fits (room + 5) (Snapshot.shape.write style s))
    {test : String} {e : Int} (he : (groups s plan?).valueOf test = some e) :
    Text.isWithinDigits e = true := by
  cases hb : s.buckets.get? test with
  | none =>
    rw [(groups s plan?).valueOf_of_absent hb] at he
    cases he
  | some bucket =>
    have hp := s.get?_projected_of_value hb he
    have hall := (descends_projected h).forall_bucket
      (P := fun b => Text.isWithinDigits b.value = true)
      (fun e he => Bucket.isWithinDigits_of_fits ((Snapshot.fits_bucket hfits).1 e he))
      fun e he b hb => Bucket.isWithinDigits_of_fits ((Snapshot.fits_bucket hfits).2 e he b hb)
    have hvalue := hall _ ((Dict.mem_entries_iff _ _ _).2 hp)
    rwa [Snapshot.value_projectedBucket] at hvalue

end Override

end ExperimentGroups
