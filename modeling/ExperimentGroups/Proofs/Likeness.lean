import ExperimentGroups.Proofs.Descent
import ExperimentGroups.Proofs.Independence

/-!
# Snapshots that are alike

Two snapshots that are equal by value may differ in the order of their tests, and in how numbers
within payloads and constants are spelled. Rules read values of buckets only and look things up by
name, so they find the same effective values on both.

The relations of payloads, allocations and definitions are a parameter here. Two of the instances
count: equality by value, and equality, where only the order of tests may differ.

## Main definitions

* `Dict.Alike`: dictionaries with related values under the same names, in any order
* `Likeness`: relations of payloads, allocations and definitions that leave alone what queries read
* `Likeness.identity`, `Likeness.byValue`: the two instances
* `Likeness.Alike`: snapshots that are related

## Main results

* `Likeness.sameValue_iff`: snapshots are equal by value exactly if they are related by value
* `Likeness.Alike.chain_eq`: rules make the same queries on related snapshots
* `Likeness.Alike.effective_eq`: so they find the same effective values
-/

namespace ExperimentGroups

/-! ## Dictionaries -/

namespace Dict

variable {α β : Type} {r : α → β → Prop} {d : Dict α} {e : Dict β}

/-- **Dictionaries with related values** under the same names, in any order. -/
def Alike (r : α → β → Prop) (d : Dict α) (e : Dict β) : Prop :=
  ∀ name, Option.Rel r (d.get? name) (e.get? name)

theorem Alike.mem_keys_iff (h : d.Alike r e) (name : String) : name ∈ d.keys ↔ name ∈ e.keys := by
  have hname := h name
  rw [← not_iff_not, ← get?_eq_none_iff, ← get?_eq_none_iff]
  generalize d.get? name = a at hname ⊢
  generalize e.get? name = b at hname ⊢
  cases hname <;> simp

/-- The names are the same, in another order perhaps. -/
theorem Alike.perm_keys (h : d.Alike r e) : d.keys.Perm e.keys :=
  (List.perm_ext_iff_of_nodup d.distinct e.distinct).2 h.mem_keys_iff

theorem Alike.size_eq (h : d.Alike r e) : d.size = e.size := by
  have hlength := h.perm_keys.length_eq
  rwa [keys, keys, List.length_map, List.length_map] at hlength

theorem Alike.mono {r' : α → β → Prop} (h : d.Alike r e) (hr : ∀ a b, r a b → r' a b) :
    d.Alike r' e := by
  intro name
  have hname := h name
  generalize d.get? name = a at hname ⊢
  generalize e.get? name = b at hname ⊢
  cases hname with
  | none => exact .none
  | some hab => exact .some (hr _ _ hab)

/-- Dictionaries that agree have related values. -/
theorem alike_of_agree {same : α → α → Bool} {d e : Dict α} (h : d.agree same e = true) :
    d.Alike (fun a b => same a b = true) e := by
  have hsub : d.keys ⊆ e.keys := by
    intro name hname
    obtain ⟨entry, hentry, rfl⟩ := List.mem_map.1 hname
    obtain ⟨value, hvalue, -⟩ := exists_of_agree h hentry
    exact List.mem_map.2 ⟨_, hvalue, rfl⟩
  have hsize : e.keys.length ≤ d.keys.length := by
    rw [agree, Bool.and_eq_true, beq_iff_eq] at h
    rw [keys, keys, List.length_map, List.length_map]
    exact h.1.ge
  -- As many names, all of them among the others: the same names.
  have hperm : d.keys.Perm e.keys :=
    (List.subperm_of_subset d.distinct hsub).perm_of_length_le hsize
  intro name
  cases hd : d.get? name with
  | none =>
    have hname : name ∉ e.keys := fun hname =>
      (d.get?_eq_none_iff name).1 hd (hperm.symm.subset hname)
    rw [(e.get?_eq_none_iff name).2 hname]
    exact .none
  | some a =>
    obtain ⟨b, hb, hsame⟩ := exists_of_agree h ((d.mem_entries_iff name a).2 hd)
    rw [(e.mem_entries_iff name b).1 hb]
    exact .some hsame

/-- **Dictionaries agree exactly if their values are related.** -/
theorem agree_iff {same : α → α → Bool} {d e : Dict α} :
    d.agree same e = true ↔ d.Alike (fun a b => same a b = true) e := by
  refine ⟨alike_of_agree, fun h => ?_⟩
  rw [agree, Bool.and_eq_true, beq_iff_eq, List.all_eq_true]
  refine ⟨h.size_eq, fun entry hentry => ?_⟩
  have hname := h entry.1
  rw [(d.mem_entries_iff entry.1 entry.2).1 hentry] at hname
  generalize e.get? entry.1 = b at hname ⊢
  cases hname with
  | some hsame => exact hsame

/-- Dictionaries that have the same entries in any order have equal values. -/
theorem alike_of_perm {d e : Dict α} (h : d.entries.Perm e.entries) : d.Alike Eq e := by
  intro name
  have hget : d.get? name = e.get? name := by
    refine Option.ext fun value => ?_
    rw [← mem_entries_iff, ← mem_entries_iff]
    exact h.mem_iff
  rw [hget]
  cases e.get? name with
  | none => exact .none
  | some value => exact .some rfl

end Dict

/-- Lists that agree item by item are related item by item. -/
theorem forall₂_of_all_zip {α : Type} {same : α → α → Bool} {xs ys : List α}
    (h : (xs.length == ys.length && (xs.zip ys).all fun p => same p.1 p.2) = true) :
    List.Forall₂ (fun x y => same x y = true) xs ys := by
  rw [Bool.and_eq_true, beq_iff_eq] at h
  obtain ⟨hlength, hall⟩ := h
  induction xs generalizing ys with
  | nil =>
    cases ys with
    | nil => exact .nil
    | cons y ys => cases hlength
  | cons x xs ih =>
    cases ys with
    | nil => cases hlength
    | cons y ys =>
      rw [List.zip_cons_cons, List.all_cons, Bool.and_eq_true] at hall
      exact .cons hall.1 (ih (Nat.succ.inj hlength) hall.2)

/-! ## Likenesses -/

/-- **Buckets with related payloads** that are the same otherwise. -/
structure Bucket.Alike (r : Payload → Payload → Prop) (b c : Bucket) : Prop where
  name : b.name = c.name
  value : b.value = c.value
  description : b.description = c.description
  payload : Option.Rel r b.payload c.payload

/-- **A likeness**: relations of payloads, allocations and definitions under which what a query
reads on its way stays the same. -/
structure Likeness where
  payload : Payload → Payload → Prop
  allocation : Allocation → Allocation → Prop
  definition : Definition → Definition → Prop
  isEmpty_eq : ∀ {p q}, payload p q → p.isEmpty = q.isEmpty
  id_eq : ∀ {a b}, allocation a b → a.id = b.id
  buckets : ∀ {d e}, definition d e → List.Forall₂ (Bucket.Alike payload) d.buckets e.buckets

/-- **Related snapshots**: their tests are related name by name. -/
structure Likeness.Alike (l : Likeness) (s s' : Snapshot) : Prop where
  matrixVersion : s.matrixVersion = s'.matrixVersion
  buckets : s.buckets.Alike (Bucket.Alike l.payload) s'.buckets
  allocations : s.allocations.Alike l.allocation s'.allocations
  definitions : s.definitions.Alike l.definition s'.definitions

namespace Bucket

variable {r : Payload → Payload → Prop} {b c : Bucket}

theorem Alike.refl (hr : ∀ p, r p p) (b : Bucket) : Bucket.Alike r b b where
  name := rfl
  value := rfl
  description := rfl
  payload := by
    cases b.payload with
    | none => exact .none
    | some p => exact .some (hr p)

theorem alike_bare (value : Int) : Bucket.Alike r (bare value) (bare value) :=
  ⟨rfl, rfl, rfl, .none⟩

/-- Equality by value relates the payloads by value. -/
theorem sameValue_iff : b.sameValue c = true ↔ b.Alike (fun p q => p.sameValue q = true) c := by
  obtain ⟨name, value, description, payload⟩ := b
  obtain ⟨name', value', description', payload'⟩ := c
  constructor
  · intro h
    simp only [sameValue, Bool.and_eq_true, beq_iff_eq] at h
    obtain ⟨⟨⟨hname, hvalue⟩, hdescription⟩, hpayload⟩ := h
    refine ⟨hname, hvalue, hdescription, ?_⟩
    cases payload <;> cases payload'
    · exact .none
    · cases hpayload
    · cases hpayload
    · exact .some hpayload
  · rintro ⟨rfl, rfl, rfl, hpayload⟩
    cases hpayload with
    | none => simp [sameValue]
    | some h => simpa [sameValue] using h

end Bucket

theorem Payload.isEmpty_eq_of_sameValue {p q : Payload} (h : p.sameValue q = true) :
    p.isEmpty = q.isEmpty := by
  cases p <;> cases q <;> first | rfl | cases h

namespace Likeness

/-- The likeness of things that are equal; only the order of tests may differ. -/
def identity : Likeness where
  payload := Eq
  allocation := Eq
  definition := Eq
  isEmpty_eq h := congrArg Payload.isEmpty h
  id_eq h := congrArg Allocation.id h
  buckets := by
    rintro d _ rfl
    exact List.forall₂_same.2 fun b _ => .refl (fun _ => rfl) b

/-- **The likeness of things that are equal by value.** -/
def byValue : Likeness where
  payload p q := p.sameValue q = true
  allocation a b := a.sameValue b = true
  definition d e := d.sameValue e = true
  isEmpty_eq h := Payload.isEmpty_eq_of_sameValue h
  id_eq h := by
    simp only [Allocation.sameValue, Bool.and_eq_true, beq_iff_eq] at h
    exact h.1.1.2
  buckets h := by
    rw [Definition.sameValue, Bool.and_eq_true, Bool.and_eq_true] at h
    exact (forall₂_of_all_zip h.1.2).imp fun _ _ => Bucket.sameValue_iff.1

variable {s s' : Snapshot}

/-- **Snapshots are equal by value exactly if they are related by value.** -/
theorem sameValue_iff : s.sameValue s' = true ↔ byValue.Alike s s' := by
  have hbuckets : s.buckets.agree Bucket.sameValue s'.buckets = true ↔
      s.buckets.Alike (Bucket.Alike byValue.payload) s'.buckets := by
    rw [Dict.agree_iff]
    constructor
    · exact fun h => h.mono fun _ _ => Bucket.sameValue_iff.1
    · exact fun h => h.mono fun _ _ => Bucket.sameValue_iff.2
  simp only [Snapshot.sameValue, Bool.and_eq_true, beq_iff_eq]
  constructor
  · rintro ⟨⟨⟨hversion, hb⟩, hallocations⟩, hdefinitions⟩
    exact ⟨hversion, hbuckets.1 hb, Dict.agree_iff.1 hallocations, Dict.agree_iff.1 hdefinitions⟩
  · rintro ⟨hversion, hb, hallocations, hdefinitions⟩
    exact ⟨⟨⟨hversion, hbuckets.2 hb⟩, Dict.agree_iff.2 hallocations⟩,
      Dict.agree_iff.2 hdefinitions⟩

/-- Snapshots that have the same tests in any order are related as equal. -/
theorem alike_identity (hversion : s.matrixVersion = s'.matrixVersion)
    (hbuckets : s.buckets.entries.Perm s'.buckets.entries)
    (hallocations : s.allocations.entries.Perm s'.allocations.entries)
    (hdefinitions : s.definitions.entries.Perm s'.definitions.entries) :
    identity.Alike s s' where
  matrixVersion := hversion
  buckets := (Dict.alike_of_perm hbuckets).mono fun b _ h => h ▸ .refl (fun _ => rfl) b
  allocations := Dict.alike_of_perm hallocations
  definitions := Dict.alike_of_perm hdefinitions

/-! ## Rules -/

section Options

variable {α β γ δ : Type} {r : α → β → Prop} {r' : γ → δ → Prop} {a : Option α} {b : Option β}

theorem rel_bind {f : α → Option γ} {f' : β → Option δ} (h : Option.Rel r a b)
    (hf : ∀ x y, r x y → Option.Rel r' (f x) (f' y)) : Option.Rel r' (a.bind f) (b.bind f') := by
  cases h with
  | none => exact .none
  | some hxy => exact hf _ _ hxy

theorem rel_map {f : α → γ} {f' : β → δ} (h : Option.Rel r a b)
    (hf : ∀ x y, r x y → r' (f x) (f' y)) : Option.Rel r' (a.map f) (b.map f') := by
  cases h with
  | none => exact .none
  | some hxy => exact .some (hf _ _ hxy)

end Options

section Declared

variable {r : Payload → Payload → Prop} {bs cs : List Bucket}

theorem rel_find? (h : List.Forall₂ (Bucket.Alike r) bs cs) (v : Int) :
    Option.Rel (Bucket.Alike r) (bs.find? (·.value == v)) (cs.find? (·.value == v)) := by
  induction h with
  | nil => exact .none
  | @cons b c bs cs hbc _ ih =>
    rw [List.find?_cons, List.find?_cons, hbc.value]
    cases c.value == v with
    | true => exact .some hbc
    | false => exact ih

theorem rel_lowestOf (h : List.Forall₂ (Bucket.Alike r) bs cs) :
    Option.Rel (Bucket.Alike r) (Definition.lowestOf bs) (Definition.lowestOf cs) := by
  induction h with
  | nil => exact .none
  | @cons b c bs cs hbc _ ih =>
    rw [Definition.lowestOf, Definition.lowestOf]
    generalize Definition.lowestOf bs = lowest at ih ⊢
    generalize Definition.lowestOf cs = lowest' at ih ⊢
    cases ih with
    | none => exact .some hbc
    | some hlowest =>
      -- The same of the two buckets is the lower one, since related ones have the same value.
      simp only [hlowest.value, hbc.value]
      split
      · exact .some hlowest
      · exact .some hbc

end Declared

variable {l : Likeness} {test : String}

theorem Alike.rel_declared (h : l.Alike s s') (test : String) (v : Int) :
    Option.Rel (Bucket.Alike l.payload) ((s.definitions.get? test).bind (·.bucket? v))
      ((s'.definitions.get? test).bind (·.bucket? v)) :=
  rel_bind (h.definitions test) fun _ _ hde => rel_find? (l.buckets hde) v

theorem Alike.rel_lowest (h : l.Alike s s') (test : String) :
    Option.Rel (Bucket.Alike l.payload) ((s.definitions.get? test).bind Definition.lowest?)
      ((s'.definitions.get? test).bind Definition.lowest?) :=
  rel_bind (h.definitions test) fun _ _ hde => rel_lowestOf (l.buckets hde)

theorem Alike.pinned_eq (h : l.Alike s s') {b c : Bucket} (hvalue : b.value = c.value)
    (values : Dict Int) : Override.pinned values s test b = Override.pinned values s' test c := by
  unfold Override.pinned
  cases values.get? test with
  | none => exact hvalue
  | some v =>
    have hdeclared := h.rel_declared test v
    dsimp only
    generalize (s.definitions.get? test).bind (·.bucket? v) = d at hdeclared ⊢
    generalize (s'.definitions.get? test).bind (·.bucket? v) = e at hdeclared ⊢
    cases hdeclared with
    | none => exact hvalue
    | some _ => rfl

theorem Alike.heldOut_eq (h : l.Alike s s') {b c : Bucket} (hvalue : b.value = c.value) :
    Override.heldOut s test b = Override.heldOut s' test c := by
  unfold Override.heldOut
  have hlowest := h.rel_lowest test
  generalize (s.definitions.get? test).bind Definition.lowest? = d at hlowest ⊢
  generalize (s'.definitions.get? test).bind Definition.lowest? = e at hlowest ⊢
  cases hlowest with
  | none => exact hvalue
  | some hde => exact hde.value

/-- A rule makes the same query on related snapshots. -/
theorem Alike.hook_eq (h : l.Alike s s') {b c : Bucket} (hvalue : b.value = c.value) (rule : Override) :
    rule.hook s test b = rule.hook s' test c := by
  cases rule with
  | keep => exact congrArg pure hvalue
  | pin values => exact congrArg pure (h.pinned_eq hvalue values)
  | holdout holdoutTest value => simp only [Override.hook, hvalue, h.heldOut_eq hvalue]

/-- And so do rules in order, since they look at the value of the bucket only. -/
theorem Alike.chain_eq (h : l.Alike s s') (rules : List Override) {b c : Bucket}
    (hvalue : b.value = c.value) :
    Hook.chain (rules.map Override.hook) s test b =
      Hook.chain (rules.map Override.hook) s' test c := by
  induction rules generalizing b c with
  | nil => exact congrArg pure hvalue
  | cons rule rules ih =>
    rw [List.map_cons, Hook.chain_cons, Hook.chain_cons, h.hook_eq hvalue]
    exact congrArg _ (funext fun v => ih rfl)

/-! ## Effective values -/

section Effective

open Override

variable {plan? : Option (Plan Override)}

/-- Under rules, related snapshots have the same values at every depth, with the same messages. -/
theorem Alike.effectiveWithin_eq (h : l.Alike s s') (depth : Nat) (test : String) :
    (groups s plan?).effectiveWithin depth test =
      (groups s' plan?).effectiveWithin depth test := by
  induction depth generalizing test with
  | zero =>
    have hbucket := h.buckets test
    simp only [Groups.effectiveWithin, groups]
    generalize s.buckets.get? test = b at hbucket ⊢
    generalize s'.buckets.get? test = c at hbucket ⊢
    cases hbucket <;> rfl
  | succ depth ih =>
    have hbucket := h.buckets test
    have hbelow : (groups s plan?).effectiveWithin depth = (groups s' plan?).effectiveWithin depth :=
      funext ih
    cases hb : s.buckets.get? test with
    | none =>
      rw [hb] at hbucket
      cases hc : s'.buckets.get? test with
      | none =>
        rw [(groups s plan?).effectiveWithin_of_absent hb,
          (groups s' plan?).effectiveWithin_of_absent hc]
      | some c =>
        rw [hc] at hbucket
        cases hbucket
    | some b =>
      rw [hb] at hbucket
      cases hc : s'.buckets.get? test with
      | none =>
        rw [hc] at hbucket
        cases hbucket
      | some c =>
        rw [hc] at hbucket
        cases hbucket with
        | some hbc =>
          rw [effectiveWithin_succ hb, effectiveWithin_succ hc, h.chain_eq _ hbc.value, hbelow,
            hbc.value]

/-- **Under rules, related snapshots have the same effective values**, with the same messages. -/
theorem Alike.effective_eq (h : l.Alike s s') :
    (groups s plan?).effective = (groups s' plan?).effective := by
  funext test
  unfold Groups.effective
  rw [h.effectiveWithin_eq]
  show (groups s' plan?).effectiveWithin s.buckets.size test = _
  rw [h.buckets.size_eq]
  rfl

theorem Alike.valueOf_eq (h : l.Alike s s') :
    (groups s plan?).valueOf = (groups s' plan?).valueOf := by
  funext test
  rw [Groups.valueOf, Groups.valueOf, h.effective_eq]

theorem Alike.presentHoldouts_eq (h : l.Alike s s') (rules : List Override) :
    presentHoldouts s rules = presentHoldouts s' rules := by
  simp only [presentHoldouts, h.buckets.mem_keys_iff]

end Effective

end Likeness

end ExperimentGroups
