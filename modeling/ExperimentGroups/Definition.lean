import ExperimentGroups.Allocation
import ExperimentGroups.Bucket

/-!
# Test definitions

A definition is the catalogue of the buckets that a test may have, with its allocations and some
data that are carried along. Values may repeat; the first bucket with a value counts.

## Main definitions

* `Definition`: the type
* `Definition.bucket?`: the first bucket with a value
* `Definition.lowest?`: the first bucket with the smallest value
* `Definition.shape`, `Definition.sameValue`: how a definition stands in JSON, and equality by
  value

## Main results

* `Definition.bucket?_eq_none_iff`: a bucket is found exactly for the declared values
* `Definition.lowest?_eq_none_iff`: only without buckets there is no lowest one
* `Definition.lowest?_mem_le`: the lowest bucket has the smallest declared value
-/

namespace ExperimentGroups

/-- **The definition of a test.** -/
structure Definition where
  version : String
  salt : String
  testType : Option String
  description : Option String
  rule : Option String
  constants : Dict Json
  buckets : List Bucket
  allocations : List Allocation
  deriving DecidableEq

namespace Definition

/-- **The first bucket with a value.** -/
def bucket? (d : Definition) (value : Int) : Option Bucket :=
  d.buckets.find? (·.value == value)

/-- The first bucket with the smallest value in a list. -/
def lowestOf : List Bucket → Option Bucket
  | [] => none
  | b :: bs =>
    match lowestOf bs with
    | none => some b
    | some c => if c.value < b.value then some c else some b

/-- **The first bucket with the smallest value.** -/
def lowest? (d : Definition) : Option Bucket := lowestOf d.buckets

theorem bucket?_eq_none_iff (d : Definition) (value : Int) :
    d.bucket? value = none ↔ ∀ b ∈ d.buckets, b.value ≠ value := by
  simp [bucket?]

theorem value_of_bucket? {d : Definition} {value : Int} {b : Bucket}
    (h : d.bucket? value = some b) : b.value = value := by
  simpa using List.find?_some h

theorem mem_of_bucket? {d : Definition} {value : Int} {b : Bucket}
    (h : d.bucket? value = some b) : b ∈ d.buckets :=
  List.mem_of_find?_eq_some h

theorem exists_bucket?_iff (d : Definition) (value : Int) :
    (∃ b, d.bucket? value = some b) ↔ ∃ b ∈ d.buckets, b.value = value := by
  refine ⟨fun ⟨b, hb⟩ => ⟨b, mem_of_bucket? hb, value_of_bucket? hb⟩, fun ⟨b, hb, hv⟩ => ?_⟩
  cases hd : d.bucket? value with
  | none => exact absurd hv ((d.bucket?_eq_none_iff value).1 hd b hb)
  | some c => exact ⟨c, rfl⟩

theorem lowestOf_eq_none_iff (bs : List Bucket) : lowestOf bs = none ↔ bs = [] := by
  cases bs with
  | nil => simp [lowestOf]
  | cons b bs =>
    simp only [lowestOf]
    repeat' split
    all_goals simp

theorem lowest?_eq_none_iff (d : Definition) : d.lowest? = none ↔ d.buckets = [] :=
  lowestOf_eq_none_iff d.buckets

theorem lowestOf_mem_le {bs : List Bucket} {b : Bucket} (h : lowestOf bs = some b) :
    b ∈ bs ∧ ∀ c ∈ bs, b.value ≤ c.value := by
  induction bs generalizing b with
  | nil => simp [lowestOf] at h
  | cons first bs ih =>
    rw [lowestOf] at h
    cases hl : lowestOf bs with
    | none =>
      rw [hl, Option.some.injEq] at h
      rw [lowestOf_eq_none_iff] at hl
      simp [h, hl]
    | some c =>
      obtain ⟨hc, hle⟩ := ih hl
      rw [hl] at h
      by_cases hlt : c.value < first.value
      · simp only [hlt, if_true, Option.some.injEq] at h
        subst h
        refine ⟨List.mem_cons_of_mem _ hc, fun d hd => ?_⟩
        rcases List.mem_cons.1 hd with rfl | hd
        · omega
        · exact hle d hd
      · simp only [hlt, if_false, Option.some.injEq] at h
        subst h
        refine ⟨List.mem_cons_self, fun d hd => ?_⟩
        rcases List.mem_cons.1 hd with rfl | hd
        · omega
        · have := hle d hd
          omega

/-- The lowest bucket is declared, and no declared value is smaller than its own. -/
theorem lowest?_mem_le {d : Definition} {b : Bucket} (h : d.lowest? = some b) :
    b ∈ d.buckets ∧ ∀ c ∈ d.buckets, b.value ≤ c.value :=
  lowestOf_mem_le h

open Wire in
/-- How a definition stands in JSON. -/
def shape : Shape Definition :=
  .record
    (.field (.plain "version") (some "") version (.text 0 none) <|
      .field (.plain "salt") (some "") salt (.text 0 none) <|
      .field ⟨"testType", "test_type"⟩ (some none) testType (.nullable (.text 0 none)) <|
      .field (.plain "description") (some none) description (.nullable (.text 0 none)) <|
      .field (.plain "rule") (some none) rule (.nullable (.text 0 none)) <|
      .field (.plain "constants") (some .empty) constants (.dict .anything) <|
      .field (.plain "buckets") (some []) buckets (.sequence .list Bucket.shape) <|
      .field (.plain "allocations") (some []) allocations (.sequence .list Allocation.shape)
        .done)
    fun (version, salt, testType, description, rule, constants, buckets, allocations, ()) =>
      .ok ⟨version, salt, testType, description, rule, constants, buckets, allocations⟩

/-- Equality by value. -/
def sameValue (d e : Definition) : Bool :=
  d.version == e.version && d.salt == e.salt && d.testType == e.testType &&
    d.description == e.description && d.rule == e.rule &&
    d.constants.agree Json.sameValue e.constants &&
    (d.buckets.length == e.buckets.length &&
      (d.buckets.zip e.buckets).all fun p => p.1.sameValue p.2) &&
    (d.allocations.length == e.allocations.length &&
      (d.allocations.zip e.allocations).all fun p => p.1.sameValue p.2)

end Definition

end ExperimentGroups
