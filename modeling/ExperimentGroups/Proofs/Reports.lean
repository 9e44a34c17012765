import ExperimentGroups.Proofs.Finiteness
import ExperimentGroups.Proofs.Places

/-!
# What is reported of a value

The reader of a shape goes on after a problem, so a value that is broken in many places has many
problems. They come in the order of the description, each is where it says that it is, and at least
one comes with every failure. A container of the wrong kind, a missing field and what makes a record
each have one problem that stands for the whole, so no problem lies within the place of another,
unless an object repeats a name: the entries of such a dictionary have one place in common.

## Main definitions

* `Wire.Leads`: that a path of steps leads from a value to a part
* `Wire.Shape.Places`, `Wire.Shape.Before`: where the problems of a value are, and in which order
* `Wire.Checked.Reports`: that problems are placed and ordered
* `Wire.Shape.Reports`: what the problems of a value look like

## Main results

* `Wire.Shape.reports_read`: problems are placed and ordered
* `Wire.Shape.Places.leads`, `Wire.Shape.Places.lacks`: what is at a place
* `Wire.Shape.Before.apart`: places that are ordered lie apart, if names are not repeated
* `Wire.Shape.reports`: all of this
-/

namespace ExperimentGroups

namespace Wire

/-! ## Names of a field -/

/-- A name of a field, in either spelling. -/
def Key.Names (key : Key) (name : String) : Prop := name = key.camel ∨ name = key.snake

theorem Key.find?_eq_none_iff {key : Key} {ms : List (String × Json)} :
    key.find? ms = none ↔ key.Unused ms := by
  rw [find?]
  cases hcamel : Dict.findLast key.camel ms with
  | some j =>
    constructor
    · intro h
      cases h
    · intro h
      rw [(Dict.findLast_eq_none_iff key.camel ms).2 fun m hm => (h m hm).1] at hcamel
      cases hcamel
  | none =>
    rw [Dict.findLast_eq_none_iff] at hcamel
    rw [Option.map_eq_none_iff, Dict.findLast_eq_none_iff]
    exact ⟨fun h m hm => ⟨hcamel m hm, h m hm⟩, fun h m hm => (h m hm).2⟩

theorem Key.names_of_find? {key : Key} {ms : List (String × Json)} {m : String × Json}
    (h : key.find? ms = some m) : key.Names m.1 := by
  rw [find?] at h
  cases hcamel : Dict.findLast key.camel ms with
  | some j =>
    rw [hcamel] at h
    exact .inl (Option.some.inj h ▸ rfl)
  | none =>
    rw [hcamel] at h
    obtain ⟨j, -, rfl⟩ := Option.map_eq_some_iff.1 h
    exact .inr rfl

/-- Fields that have no name in common have different names. -/
theorem Key.Apart.ne {key other : Key} (h : key.Apart other) {name name' : String}
    (hname : key.Names name) (hname' : other.Names name') : name ≠ name' := by
  obtain ⟨hcc, hcs, hsc, hss⟩ := h
  rcases hname with rfl | rfl <;> rcases hname' with rfl | rfl <;> assumption

/-! ## Places -/

/-- **A path leads from a value to a part of it.** Of members of one name it may lead to each. -/
inductive Leads : List Step → Json → Json → Prop
  | here {j : Json} : Leads [] j j
  | item {js : List Json} {i : Nat} {j part : Json} {path : List Step} (hj : js[i]? = some j)
    (h : Leads path j part) : Leads (.item i :: path) (.array js) part
  | member {ms : List (String × Json)} {m : String × Json} {part : Json} {path : List Step}
    (hm : m ∈ ms) (h : Leads path m.2 part) : Leads (.member m.1 :: path) (.object ms) part

mutual

/-- **Where the problems of a value of a shape are**: a missing field is shown with the object that
lacks it, and any other fault with the part of the value that is there. -/
inductive Shape.Places : ∀ {α : Type}, Shape α → Json → Problem → Prop
  | here {α : Type} {s : Shape α} {j : Json} {fault : Fault} (h : fault ≠ .missing) :
    Shape.Places s j ⟨[], fault, j⟩
  | nullable {α : Type} {s : Shape α} {j : Json} {p : Problem} (h : Shape.Places s j p) :
    Shape.Places (.nullable s) j p
  | item {α : Type} {kind : Sequence} {s : Shape α} {js : List Json} {i : Nat} {j : Json}
    {p : Problem} (hj : js[i]? = some j) (h : Shape.Places s j p) :
    Shape.Places (.sequence kind s) (.array js) (p.under (.item i))
  | entry {α : Type} {s : Shape α} {ms : List (String × Json)} {m : String × Json} {p : Problem}
    (hm : m ∈ ms) (h : Shape.Places s m.2 p) :
    Shape.Places (.dict s) (.object ms) (p.under (.member m.1))
  | record {α β : Type} {fields : Fields α β} {make : β → Except Fault α}
    {ms : List (String × Json)} {p : Problem} (h : Fields.Places fields ms p) :
    Shape.Places (.record fields make) (.object ms) p

/-- Where the problems of the fields of a record are. -/
inductive Fields.Places : ∀ {ρ β : Type}, Fields ρ β → List (String × Json) → Problem → Prop
  | member {ρ α β : Type} {key : Key} {default : Option α} {get : ρ → α} {s : Shape α}
    {rest : Fields ρ β} {ms : List (String × Json)} {m : String × Json} {p : Problem}
    (hm : key.find? ms = some m) (h : Shape.Places s m.2 p) :
    Fields.Places (.field key default get s rest) ms (p.under (.member m.1))
  | missing {ρ α β : Type} {key : Key} {get : ρ → α} {s : Shape α} {rest : Fields ρ β}
    {ms : List (String × Json)} (h : key.Unused ms) :
    Fields.Places (.field key none get s rest) ms ⟨[.member key.camel], .missing, .object ms⟩
  | later {ρ α β : Type} {key : Key} {default : Option α} {get : ρ → α} {s : Shape α}
    {rest : Fields ρ β} {ms : List (String × Json)} {p : Problem} (h : Fields.Places rest ms p) :
    Fields.Places (.field key default get s rest) ms p

end

mutual

/-- **Which place of a value comes first**: fields come as they are declared, entries of a
dictionary as they stand in the value, and items by their index. -/
inductive Shape.Before : ∀ {α : Type}, Shape α → Json → List Step → List Step → Prop
  | nullable {α : Type} {s : Shape α} {j : Json} {path path' : List Step}
    (h : Shape.Before s j path path') : Shape.Before (.nullable s) j path path'
  | items {α : Type} {kind : Sequence} {s : Shape α} {js : List Json} {i i' : Nat}
    {path path' : List Step} (h : i < i') :
    Shape.Before (.sequence kind s) (.array js) (.item i :: path) (.item i' :: path')
  | item {α : Type} {kind : Sequence} {s : Shape α} {js : List Json} {i : Nat} {j : Json}
    {path path' : List Step} (hj : js[i]? = some j) (h : Shape.Before s j path path') :
    Shape.Before (.sequence kind s) (.array js) (.item i :: path) (.item i :: path')
  | entries {α : Type} {s : Shape α} {ms : List (String × Json)} {m m' : String × Json}
    {path path' : List Step} (h : [m, m'].Sublist ms) :
    Shape.Before (.dict s) (.object ms) (.member m.1 :: path) (.member m'.1 :: path')
  | entry {α : Type} {s : Shape α} {ms : List (String × Json)} {m : String × Json}
    {path path' : List Step} (hm : m ∈ ms) (h : Shape.Before s m.2 path path') :
    Shape.Before (.dict s) (.object ms) (.member m.1 :: path) (.member m.1 :: path')
  | record {α β : Type} {fields : Fields α β} {make : β → Except Fault α}
    {ms : List (String × Json)} {path path' : List Step} (h : Fields.Before fields ms path path') :
    Shape.Before (.record fields make) (.object ms) path path'

/-- Which place within the fields of a record comes first. -/
inductive Fields.Before :
    ∀ {ρ β : Type}, Fields ρ β → List (String × Json) → List Step → List Step → Prop
  | first {ρ α β : Type} {key key' : Key} {default : Option α} {get : ρ → α} {s : Shape α}
    {rest : Fields ρ β} {ms : List (String × Json)} {name name' : String}
    {path path' : List Step} (hname : key.Names name) (hkey : key' ∈ rest.keys)
    (hname' : key'.Names name') :
    Fields.Before (.field key default get s rest) ms (.member name :: path) (.member name' :: path')
  | member {ρ α β : Type} {key : Key} {default : Option α} {get : ρ → α} {s : Shape α}
    {rest : Fields ρ β} {ms : List (String × Json)} {m : String × Json} {path path' : List Step}
    (hm : key.find? ms = some m) (h : Shape.Before s m.2 path path') :
    Fields.Before (.field key default get s rest) ms (.member m.1 :: path) (.member m.1 :: path')
  | later {ρ α β : Type} {key : Key} {default : Option α} {get : ρ → α} {s : Shape α}
    {rest : Fields ρ β} {ms : List (String × Json)} {path path' : List Step}
    (h : Fields.Before rest ms path path') :
    Fields.Before (.field key default get s rest) ms path path'

end

/-! ## Checked results -/

/-- **Problems that are placed and ordered.** Without a problem there is a result. -/
structure Checked.Reports {α : Type} (P : Problem → Prop) (B : List Step → List Step → Prop)
    (r : Checked α) : Prop where
  decided : (∃ a, r = .ok a) ∨ problems r ≠ []
  placed : ∀ p ∈ problems r, P p
  ordered : (problems r).Pairwise fun p q => B p.path q.path

namespace Checked.Reports

variable {α β : Type} {P P' : Problem → Prop} {B B' : List Step → List Step → Prop}

theorem ok (a : α) : Reports P B (.ok a) :=
  ⟨.inl ⟨a, rfl⟩, fun _ h => absurd h List.not_mem_nil, .nil⟩

theorem fail {f : Fault} {j : Json} (h : P ⟨[], f, j⟩) :
    Reports P B (Wire.fail f j : Checked α) :=
  ⟨.inr (List.cons_ne_nil _ _), fun _ hp => List.mem_singleton.1 hp ▸ h,
    List.pairwise_singleton _ _⟩

theorem mono {r : Checked α} (h : Reports P B r) (hP : ∀ p, P p → P' p)
    (hB : ∀ path path', B path path' → B' path path') : Reports P' B' r :=
  ⟨h.decided, fun p hp => hP p (h.placed p hp), h.ordered.imp fun hpq => hB _ _ hpq⟩

theorem under {r : Checked α} {step : Step} (h : Reports P B r)
    (hP : ∀ p, P p → P' (p.under step))
    (hB : ∀ path path', B path path' → B' (step :: path) (step :: path')) :
    Reports P' B' (Wire.under step r) := by
  refine ⟨?_, ?_, ?_⟩
  · rcases h.decided with ⟨a, rfl⟩ | hne
    · exact .inl ⟨a, rfl⟩
    · exact .inr (by simpa using hne)
  · rw [problems_under, List.forall_mem_map]
    exact fun p hp => hP p (h.placed p hp)
  · rw [problems_under, List.pairwise_map]
    exact h.ordered.imp fun hpq => hB _ _ hpq

/-- Both are in order if the problems of the first come before those of the second. -/
theorem both {r : Checked α} {t : Checked β} (hr : Reports P B r) (ht : Reports P B t)
    (hB : ∀ p ∈ problems r, ∀ q ∈ problems t, B p.path q.path) : Reports P B (Wire.both r t) := by
  refine ⟨?_, ?_, ?_⟩
  · -- A result takes both results, and a problem of either is one of both.
    rw [problems_both]
    rcases hr.decided with ⟨a, rfl⟩ | hne
    · rcases ht.decided with ⟨b, rfl⟩ | hne
      · exact .inl ⟨(a, b), rfl⟩
      · exact .inr (List.append_ne_nil_of_right_ne_nil _ hne)
    · exact .inr (List.append_ne_nil_of_left_ne_nil hne _)
  · rw [problems_both, List.forall_mem_append]
    exact ⟨hr.placed, ht.placed⟩
  · rw [problems_both, List.pairwise_append]
    exact ⟨hr.ordered, ht.ordered, hB⟩

theorem map {r : Checked α} (h : Reports P B r) (f : α → β) : Reports P B (Except.map f r) := by
  cases r with
  | ok a => exact ok (f a)
  | error ps => exact ⟨.inr (h.decided.resolve_left fun ⟨_, ha⟩ => nomatch ha), h.placed, h.ordered⟩

theorem bind {r : Checked α} {f : α → Checked β} (h : Reports P B r)
    (hf : ∀ a, Reports P B (f a)) : Reports P B (Except.bind r f) := by
  cases r with
  | ok a => exact hf a
  | error ps => exact ⟨.inr (h.decided.resolve_left fun ⟨_, ha⟩ => nomatch ha), h.placed, h.ordered⟩

end Checked.Reports

/-! ## Reading -/

section Reading

variable {α : Type} {s : Shape α}

/-- A value that is in order or has one fault itself. -/
theorem reports_orFail {j : Json} {r : Except Fault α} (h : r ≠ .error .missing) :
    Checked.Reports (s.Places j) (s.Before j) (orFail j r) := by
  cases r with
  | ok a => exact .ok a
  | error f => exact .fail (.here fun hf => h (congrArg _ hf))

theorem reports_readText (least : Nat) (most : Option Nat) (j : Json) :
    Checked.Reports (s.Places j) (s.Before j) (readText least most j) := by
  unfold readText
  repeat' split
  · exact .fail (.here (by decide))
  · exact .fail (.here (by decide))
  · exact .ok _
  · exact .fail (.here (by decide))

theorem reports_readChoice (options : List (String × α)) (j : Json) :
    Checked.Reports (s.Places j) (s.Before j) (readChoice options j) := by
  unfold readChoice
  repeat' split
  · exact .ok _
  · exact .fail (.here (by decide))
  · exact .fail (.here (by decide))

/-- A problem of the items is at one of them, or within it. -/
theorem path_of_mem_readItems {read : Json → Checked α} {js : List Json} {i : Nat} {p : Problem}
    (h : p ∈ problems (readItems read i js)) : ∃ i' path, i ≤ i' ∧ p.path = .item i' :: path := by
  induction js generalizing i with
  | nil => exact absurd h List.not_mem_nil
  | cons j js ih =>
    rw [readItems, problems_map, problems_both, problems_under, List.mem_append] at h
    rcases h with h | h
    · obtain ⟨q, -, rfl⟩ := List.mem_map.1 h
      exact ⟨i, q.path, Nat.le_refl i, rfl⟩
    · obtain ⟨i', path, hle, hpath⟩ := ih h
      exact ⟨i', path, Nat.le_of_succ_le hle, hpath⟩

/-- A problem of the entries is at one of them, or within it. -/
theorem path_of_mem_readEntries {read : Json → Checked α} {ms : List (String × Json)} {p : Problem}
    (h : p ∈ problems (readEntries read ms)) : ∃ m ∈ ms, ∃ path, p.path = .member m.1 :: path := by
  induction ms with
  | nil => exact absurd h List.not_mem_nil
  | cons m ms ih =>
    rw [readEntries, problems_map, problems_both, problems_under, List.mem_append] at h
    rcases h with h | h
    · obtain ⟨q, -, rfl⟩ := List.mem_map.1 h
      exact ⟨m, List.mem_cons_self, q.path, rfl⟩
    · obtain ⟨m', hm', path, hpath⟩ := ih h
      exact ⟨m', List.mem_cons_of_mem _ hm', path, hpath⟩

/-- A problem of a field is at the field, or within it. -/
theorem path_of_mem_readField {origin : Origin} {ms : List (String × Json)} {key : Key}
    {default : Option α} {p : Problem} (h : p ∈ problems (readField origin ms key default s)) :
    ∃ name path, key.Names name ∧ p.path = .member name :: path := by
  unfold readField at h
  split at h
  · next name j hm =>
    rw [problems_under] at h
    obtain ⟨q, -, rfl⟩ := List.mem_map.1 h
    exact ⟨name, q.path, Key.names_of_find? hm, rfl⟩
  · split at h
    · exact absurd h List.not_mem_nil
    · rw [problems_under] at h
      obtain ⟨q, -, rfl⟩ := List.mem_map.1 h
      exact ⟨key.camel, q.path, .inl rfl, rfl⟩

/-- A problem of the fields is at one of them, or within it. -/
theorem Fields.path_of_mem_read {origin : Origin} {ms : List (String × Json)} :
    ∀ {ρ β : Type} {fields : Fields ρ β} {p : Problem}, p ∈ problems (fields.read origin ms) →
      ∃ key ∈ fields.keys, ∃ name path, key.Names name ∧ p.path = .member name :: path
  | _, _, .done, _, h => absurd h List.not_mem_nil
  | _, _, .field key default get s rest, p, h => by
    change p ∈ problems (both (readField origin ms key default s) (rest.read origin ms)) at h
    rw [problems_both, List.mem_append] at h
    rcases h with h | h
    · exact ⟨key, List.mem_cons_self, path_of_mem_readField h⟩
    · obtain ⟨key', hkey', hpath⟩ := Fields.path_of_mem_read h
      exact ⟨key', List.mem_cons_of_mem _ hkey', hpath⟩

/-- Items that are read in order, from `i` on. -/
theorem reports_readItems {read : Json → Checked α} {kind : Sequence} {all js : List Json}
    (h : ∀ j ∈ js, Checked.Reports (s.Places j) (s.Before j) (read j)) {i : Nat}
    (hall : ∀ n, all[i + n]? = js[n]?) :
    Checked.Reports ((Shape.sequence kind s).Places (.array all))
      ((Shape.sequence kind s).Before (.array all)) (readItems read i js) := by
  -- Places are indices of the whole array, so the index grows while the items in front are read.
  induction js generalizing i with
  | nil => exact .ok _
  | cons j js ih =>
    obtain ⟨hj, hjs⟩ := List.forall_mem_cons.1 h
    have hitem : all[i]? = some j := hall 0
    refine .map (.both (hj.under (fun p hp => .item hitem hp) fun _ _ hb => .item hitem hb)
      (ih hjs (getElem?_next hall)) ?_) _
    -- What follows has larger indices.
    rw [problems_under, List.forall_mem_map]
    intro p _ q hq
    obtain ⟨i', path, hle, hpath⟩ := path_of_mem_readItems hq
    rw [hpath]
    exact .items hle

/-- Entries that are read in order, at the end of all of them. -/
theorem reports_readEntries {read : Json → Checked α} {all ms : List (String × Json)}
    (h : ∀ m ∈ ms, Checked.Reports (s.Places m.2) (s.Before m.2) (read m.2)) (hall : ms <:+ all) :
    Checked.Reports ((Shape.dict s).Places (.object all)) ((Shape.dict s).Before (.object all))
      (readEntries read ms) := by
  -- Entries may share a name, so they are ordered by where they stand and not by what they are.
  induction ms with
  | nil => exact .ok _
  | cons m ms ih =>
    obtain ⟨hm, hms⟩ := List.forall_mem_cons.1 h
    have hmem : m ∈ all := hall.subset List.mem_cons_self
    refine .map (.both (hm.under (fun p hp => .entry hmem hp) fun _ _ hb => .entry hmem hb)
      (ih hms ((List.suffix_cons m ms).trans hall)) ?_) _
    rw [problems_under, List.forall_mem_map]
    intro p _ q hq
    obtain ⟨m', hm', path, hpath⟩ := path_of_mem_readEntries hq
    rw [hpath]
    exact .entries (((List.singleton_sublist.2 hm').cons_cons m).trans hall.sublist)

/-- A field that is read in order. -/
theorem reports_readField {ρ β : Type} {origin : Origin} {key : Key} {default : Option α}
    {get : ρ → α} {rest : Fields ρ β} {ms : List (String × Json)}
    (h : ∀ j, Checked.Reports (s.Places j) (s.Before j) (s.read origin j)) :
    Checked.Reports ((Fields.field key default get s rest).Places ms)
      ((Fields.field key default get s rest).Before ms) (readField origin ms key default s) := by
  unfold readField
  split
  · next name j hm =>
    exact (h j).under (fun p hp => .member hm hp) fun _ _ hb => .member hm hb
  · next hm =>
    cases default with
    | some a => exact .ok a
    | none =>
      exact ⟨.inr (List.cons_ne_nil _ _),
        fun _ hp => List.mem_singleton.1 hp ▸ .missing (Key.find?_eq_none_iff.1 hm),
        List.pairwise_singleton _ _⟩

end Reading

mutual

/-- **Problems are placed and ordered.** -/
theorem Shape.reports_read (origin : Origin) : ∀ {α : Type} (s : Shape α) (j : Json),
    s.MissesFieldsOnly → Checked.Reports (s.Places j) (s.Before j) (s.read origin j)
  | _, .text least most, j, _ => reports_readText least most j
  | _, .choice options _, j, _ => reports_readChoice options j
  | _, .integer, j, _ => reports_orFail (integer_ne_missing j)
  | _, .double, j, _ => reports_orFail (double_ne_missing origin j)
  | _, .share, j, _ => reports_orFail (share_ne_missing origin j)
  | _, .anything, j, _ => .ok j.settled
  | _, .nullable s, j, hs => by
    by_cases hnull : j = .null
    · rw [hnull, Shape.read_nullable_null]
      exact .ok none
    · rw [Shape.read_nullable_of_ne_null origin s hnull]
      exact ((Shape.reports_read origin s j hs).map some).mono (fun _ => .nullable)
        fun _ _ => .nullable
  | _, .sequence kind s, j, hs => by
    cases j with
    | array js =>
      exact reports_readItems (fun j _ => Shape.reports_read origin s j hs) (by simp)
    | _ => exact .fail (.here (by cases kind <;> decide))
  | _, .dict s, j, hs => by
    cases j with
    | object ms =>
      exact .map (reports_readEntries (fun m _ => Shape.reports_read origin s m.2 hs)
        List.suffix_rfl) _
    | _ => exact .fail (.here (by decide))
  | _, .record fields make, j, hs => by
    cases j with
    | object ms =>
      refine .bind ((Fields.reports_read origin fields ms hs.2).mono (fun _ => .record)
        fun _ _ => .record) fun b => ?_
      -- The record is made of fields without problems only, so its fault is the only one.
      exact reports_orFail (hs.1 b)
    | _ => exact .fail (.here (by decide))

/-- The problems of the fields of a record are placed and ordered. -/
theorem Fields.reports_read (origin : Origin) : ∀ {ρ β : Type} (fields : Fields ρ β)
    (ms : List (String × Json)), fields.MissesFieldsOnly →
      Checked.Reports (fields.Places ms) (fields.Before ms) (fields.read origin ms)
  | _, _, .done, _, _ => .ok ()
  | _, _, .field key default get s rest, ms, hs => by
    refine .both (reports_readField fun j => Shape.reports_read origin s j hs.1)
      ((Fields.reports_read origin rest ms hs.2).mono (fun _ => .later) fun _ _ => .later) ?_
    intro p hp q hq
    obtain ⟨name, path, hname, hpath⟩ := path_of_mem_readField hp
    obtain ⟨key', hkey', name', path', hname', hpath'⟩ := Fields.path_of_mem_read hq
    rw [hpath, hpath']
    exact .first hname hkey' hname'

end

/-! ## What is at a place -/

mutual

/-- **A fault that is no missing field is where it says**, at the part that the problem shows. -/
theorem Shape.Places.leads : ∀ {α : Type} {s : Shape α} {j : Json} {p : Problem},
    s.Places j p → p.fault ≠ .missing → Leads p.path j p.input
  | _, _, _, _, .here _, _ => .here
  | _, _, _, _, .nullable h, hp => h.leads hp
  | _, _, _, _, .item hj h, hp => .item hj (h.leads hp)
  | _, _, _, _, .entry hm h, hp => .member hm (h.leads hp)
  | _, _, _, _, .record h, hp => h.leads hp

theorem Fields.Places.leads : ∀ {ρ β : Type} {fields : Fields ρ β} {ms : List (String × Json)}
    {p : Problem}, fields.Places ms p → p.fault ≠ .missing → Leads p.path (.object ms) p.input
  | _, _, _, _, _, .member hm h, hp => .member (Key.mem_of_find? hm) (h.leads hp)
  | _, _, _, _, _, .missing _, hp => absurd rfl hp
  | _, _, _, _, _, .later h, hp => h.leads hp

end

/-- **That an object lacks a field**: the place is that of the field in camel case, and what is
around it is an object in which the field is spelled in no way. -/
def Problem.Lacks (j : Json) (p : Problem) : Prop :=
  ∃ (parent : List Step) (key : Key) (ms : List (String × Json)),
    p.path = parent ++ [.member key.camel] ∧ p.input = .object ms ∧
      Leads parent j (.object ms) ∧ key.Unused ms

theorem Problem.Lacks.item {js : List Json} {i : Nat} {j : Json} {p : Problem}
    (hj : js[i]? = some j) (h : p.Lacks j) : (p.under (.item i)).Lacks (.array js) := by
  obtain ⟨parent, key, ms, hpath, hinput, hleads, hunused⟩ := h
  exact ⟨.item i :: parent, key, ms, congrArg _ hpath, hinput, .item hj hleads, hunused⟩

theorem Problem.Lacks.member {ms : List (String × Json)} {m : String × Json} {p : Problem}
    (hm : m ∈ ms) (h : p.Lacks m.2) : (p.under (.member m.1)).Lacks (.object ms) := by
  obtain ⟨parent, key, ms', hpath, hinput, hleads, hunused⟩ := h
  exact ⟨.member m.1 :: parent, key, ms', congrArg _ hpath, hinput, .member hm hleads, hunused⟩

mutual

/-- **A missing field is lacked** by the object around its place. -/
theorem Shape.Places.lacks : ∀ {α : Type} {s : Shape α} {j : Json} {p : Problem},
    s.Places j p → p.fault = .missing → p.Lacks j
  | _, _, _, _, .here h, hp => absurd hp h
  | _, _, _, _, .nullable h, hp => h.lacks hp
  | _, _, _, _, .item hj h, hp => .item hj (h.lacks hp)
  | _, _, _, _, .entry hm h, hp => .member hm (h.lacks hp)
  | _, _, _, _, .record h, hp => h.lacks hp

theorem Fields.Places.lacks : ∀ {ρ β : Type} {fields : Fields ρ β} {ms : List (String × Json)}
    {p : Problem}, fields.Places ms p → p.fault = .missing → p.Lacks (.object ms)
  | _, _, _, _, _, .member hm h, hp => .member (Key.mem_of_find? hm) (h.lacks hp)
  | _, _, _, _, _, .missing h, _ => ⟨[], _, _, rfl, rfl, .here, h⟩
  | _, _, _, _, _, .later h, hp => h.lacks hp

end

/-! ## Values without repeated names -/

/-- If no object repeats a name, the part that a path leads to is the value at the place. -/
theorem Leads.follow? {path : List Step} {j part : Json} (h : Leads path j part)
    (hj : j.settled = j) : follow? path j = some part := by
  induction h with
  | here => rfl
  | item hi _ ih =>
    rw [Wire.follow?, step?, hi]
    exact ih (Json.settled_array hj _ (List.mem_of_getElem? hi))
  | @member ms m part path hm _ ih =>
    obtain ⟨hnodup, hsettled⟩ := Json.settled_object hj
    rw [Wire.follow?, step?, (Dict.findEntry_eq_some_iff m.1 m.2 hnodup).2 hm]
    exact ih (hsettled m hm)

/-- **Paths that lie apart**: neither of them leads to the other or into it. -/
def Apart (path path' : List Step) : Prop := ¬ path <+: path' ∧ ¬ path' <+: path

theorem Apart.cons {path path' : List Step} (step : Step) (h : Apart path path') :
    Apart (step :: path) (step :: path') :=
  ⟨fun hp => h.1 (List.cons_prefix_cons.1 hp).2, fun hp => h.2 (List.cons_prefix_cons.1 hp).2⟩

theorem apart_of_ne {step step' : Step} (h : step ≠ step') (path path' : List Step) :
    Apart (step :: path) (step' :: path') :=
  ⟨fun hp => h (List.cons_prefix_cons.1 hp).1, fun hp => h (List.cons_prefix_cons.1 hp).1.symm⟩

mutual

/-- **Places that are ordered lie apart**, if no object repeats a name: where their paths part, they
lead to different items, to different entries or to different fields. -/
theorem Shape.Before.apart : ∀ {α : Type} {s : Shape α} {j : Json} {path path' : List Step},
    s.Before j path path' → s.Lawful → j.settled = j → Apart path path'
  | _, _, _, _, _, .nullable h, hs, hj => h.apart hs.2 hj
  | _, _, _, _, _, .items h, _, _ => apart_of_ne (fun he => h.ne (Step.item.inj he)) _ _
  | _, _, _, _, _, .item hi h, hs, hj =>
    (h.apart hs (Json.settled_array hj _ (List.mem_of_getElem? hi))).cons _
  | _, _, _, _, _, .entries h, _, hj => by
    -- Two entries of one name would repeat it.
    refine apart_of_ne (fun he => ?_) _ _
    have hnodup := (h.map Prod.fst).nodup (Json.settled_object hj).1
    simp [Step.member.inj he] at hnodup
  | _, _, _, _, _, .entry hm h, hs, hj => (h.apart hs ((Json.settled_object hj).2 _ hm)).cons _
  | _, _, _, _, _, .record h, hs, hj => h.apart hs.1 hs.2.2 (Json.settled_object hj).2

theorem Fields.Before.apart : ∀ {ρ β : Type} {fields : Fields ρ β} {ms : List (String × Json)}
    {path path' : List Step}, fields.Before ms path path' → fields.keys.Pairwise Key.Apart →
      fields.Lawful → (∀ m ∈ ms, m.2.settled = m.2) → Apart path path'
  | _, _, _, _, _, _, .first hname hkey hname', hkeys, _, _ => by
    have hapart := (List.pairwise_cons.1 hkeys).1 _ hkey
    exact apart_of_ne (fun he => hapart.ne hname hname' (Step.member.inj he)) _ _
  | _, _, _, _, _, _, .member hm h, _, hs, hms =>
    (h.apart hs.1 (hms _ (Key.mem_of_find? hm))).cons _
  | _, _, _, _, _, _, .later h, hkeys, hs, hms => h.apart (List.pairwise_cons.1 hkeys).2 hs.2.2.2 hms

end

/-! ## Reports -/

/-- **What the problems of a value look like**: without one there is a result; they are placed and
ordered, so each of them is at a part of the value or lacked by one; and if no object repeats a
name, their places lie apart and lead to one part each. -/
structure Shape.Reports {α : Type} (s : Shape α) (j : Json) (r : Checked α) : Prop
    extends Checked.Reports (s.Places j) (s.Before j) r where
  leads : ∀ p ∈ problems r, p.fault ≠ .missing → Leads p.path j p.input
  lacks : ∀ p ∈ problems r, p.fault = .missing → p.Lacks j
  follows : j.settled = j → ∀ p ∈ problems r, p.fault ≠ .missing → follow? p.path j = some p.input
  apart : j.settled = j → (problems r).Pairwise fun p q => Apart p.path q.path

/-- **What is reported of a value** of a lawful shape. -/
theorem Shape.reports {α : Type} {s : Shape α} (hs : s.Lawful) (hmissing : s.MissesFieldsOnly)
    (origin : Origin) (j : Json) : s.Reports j (s.read origin j) where
  toReports := s.reports_read origin j hmissing
  leads p hp := ((s.reports_read origin j hmissing).placed p hp).leads
  lacks p hp := ((s.reports_read origin j hmissing).placed p hp).lacks
  follows hj p hp hfault := (((s.reports_read origin j hmissing).placed p hp).leads hfault).follow? hj
  apart hj := (s.reports_read origin j hmissing).ordered.imp fun h => h.apart hs hj

end Wire

end ExperimentGroups
