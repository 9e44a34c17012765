import ExperimentGroups.Proofs.Reports
import ExperimentGroups.Proofs.Spellings

/-!
# What is reported of an entry

The dictionaries of a snapshot hold the buckets, the allocations and the definitions of the tests.
Of every entry the problems are those of the entry alone, at its own place and next to each other,
and around them are the problems of everything else, whatever the entry is. So a change of one entry
neither adds nor removes nor moves a problem of another.

In a document a dictionary may repeat a name. Then each of the entries is reported in the same way,
but all of them at one place.

## Main definitions

* `Wire.Fields.Declares`: that a record has a field
* `Snapshot.Keeps`: the dictionaries of a snapshot
* `Snapshot.Gap`, `Snapshot.Gap.fill`: a snapshot with a gap for one entry
* `Snapshot.Gap.Isolates`: that an entry is reported on its own

## Main results

* `Wire.Fields.exists_problems_read`: what one field adds to the problems of a record
* `Snapshot.exists_gap`: every entry stands in a gap
* `Snapshot.Gap.isolates`: entries are reported on their own
* `Contract.reports_independently`: what is reported of contracts and of the entries of a snapshot
-/

namespace ExperimentGroups

/-- The last entry of a name, with what stands around it. -/
theorem Dict.exists_of_findLast {α : Type} {name : String} {a : α} {es : List (String × α)}
    (h : findLast name es = some a) :
    ∃ before after, es = before ++ (name, a) :: after ∧ ∀ e ∈ after, e.1 ≠ name := by
  induction es using List.reverseRecOn with
  | nil => cases h
  | append_singleton es e ih =>
    rw [findLast_append, findLast_singleton] at h
    by_cases hname : e.1 = name
    · rw [if_pos hname, Option.some_or, Option.some.injEq] at h
      exact ⟨es, [], by rw [← hname, ← h], fun _ he => absurd he List.not_mem_nil⟩
    · rw [if_neg hname, Option.none_or] at h
      obtain ⟨before, after, rfl, hafter⟩ := ih h
      refine ⟨before, after ++ [e], by simp, List.forall_mem_append.2 ⟨hafter, ?_⟩⟩
      exact fun e' he' => List.mem_singleton.1 he' ▸ hname

theorem Dict.findLast_append_cons {α : Type} {name : String} {after : List (String × α)}
    (h : ∀ e ∈ after, e.1 ≠ name) (before : List (String × α)) (a : α) :
    findLast name (before ++ (name, a) :: after) = some a := by
  rw [List.append_cons, findLast_append, (findLast_eq_none_iff name after).2 h, Option.none_or,
    findLast_append, findLast_singleton, if_pos rfl, Option.some_or]

namespace Wire

/-- The member that is found for a field, with what stands around it. Whatever stands in its place
is found as well. -/
theorem Key.exists_of_find? {key : Key} {ms : List (String × Json)} {name : String} {j : Json}
    (h : key.find? ms = some (name, j)) :
    ∃ before after, ms = before ++ (name, j) :: after ∧
      ∀ j', key.find? (before ++ (name, j') :: after) = some (name, j') := by
  rw [find?] at h
  cases hcamel : Dict.findLast key.camel ms with
  | some i =>
    rw [hcamel] at h
    cases h
    obtain ⟨before, after, rfl, hafter⟩ := Dict.exists_of_findLast hcamel
    refine ⟨before, after, rfl, fun j' => ?_⟩
    rw [find?, Dict.findLast_append_cons hafter]
  | none =>
    rw [hcamel] at h
    obtain ⟨i, hsnake, hi⟩ := Option.map_eq_some_iff.1 h
    cases hi
    obtain ⟨before, after, rfl, hafter⟩ := Dict.exists_of_findLast hsnake
    refine ⟨before, after, rfl, fun j' => ?_⟩
    -- In camel case there is still nothing, since the names are the same.
    have hnone : Dict.findLast key.camel (before ++ (key.snake, j') :: after) = none := by
      rw [Dict.findLast_eq_none_iff] at hcamel ⊢
      simp only [List.forall_mem_append, List.forall_mem_cons] at hcamel ⊢
      exact hcamel
    rw [find?, hnone, Dict.findLast_append_cons hafter]
    rfl

/-! ## The problems of a field -/

/-- **That a record has a field** of a shape. -/
inductive Fields.Declares {α : Type} (key : Key) (s : Shape α) :
    ∀ {ρ β : Type}, Fields ρ β → Prop
  | head {ρ β : Type} {default : Option α} {get : ρ → α} {rest : Fields ρ β} :
    Fields.Declares key s (.field key default get s rest)
  | tail {ρ β γ : Type} {other : Key} {default : Option γ} {get : ρ → γ} {t : Shape γ}
    {rest : Fields ρ β} (h : Fields.Declares key s rest) :
    Fields.Declares key s (.field other default get t rest)

theorem Fields.Declares.mem_keys {α ρ β : Type} {key : Key} {s : Shape α} {fields : Fields ρ β}
    (h : fields.Declares key s) : key ∈ fields.keys := by
  induction h with
  | head => exact List.mem_cons_self
  | tail _ ih => exact List.mem_cons_of_mem _ ih

/-- That every field of a record has a default. -/
def Fields.Optional {ρ β : Type} : Fields ρ β → Prop
  | .done => True
  | .field _ default _ _ rest => default ≠ none ∧ rest.Optional

/-- A member of another field does not matter. -/
theorem Key.find?_of_unused_between {key : Key} {ns : List (String × Json)} (h : key.Unused ns)
    (ms ms' : List (String × Json)) : key.find? (ms ++ (ns ++ ms')) = key.find? (ms ++ ms') := by
  rw [find?_eq_or, find?_eq_or]
  have hnone : ∀ {name : String}, key.Names name → named name ns = [] := by
    intro name hname
    refine List.filter_eq_nil_iff.2 fun m hm => ?_
    rcases hname with rfl | rfl
    · simpa using (h m hm).1
    · simpa using (h m hm).2
  simp only [named, List.filter_append] at hnone ⊢
  rw [hnone (.inl rfl), hnone (.inr rfl)]
  rfl

section

variable {origin : Origin} {ms ms' : List (String × Json)}

/-- An optional field is read alike in objects where the same member is found. -/
theorem readField_congr {α : Type} {key : Key} {default : Option α} {s : Shape α}
    (hdefault : default ≠ none) (h : key.find? ms = key.find? ms') :
    readField origin ms key default s = readField origin ms' key default s := by
  obtain ⟨a, rfl⟩ := Option.ne_none_iff_exists'.1 hdefault
  simp only [readField, h]

/-- Optional fields are read alike in objects where the same members are found. -/
theorem Fields.read_congr : ∀ {ρ β : Type} {fields : Fields ρ β}, fields.Optional →
    (∀ key ∈ fields.keys, key.find? ms = key.find? ms') →
      fields.read origin ms = fields.read origin ms'
  | _, _, .done, _, _ => rfl
  | _, _, .field key default get s rest, hoptional, h => by
    obtain ⟨hkey, hrest⟩ := List.forall_mem_cons.1 h
    show both (readField origin ms key default s) (rest.read origin ms) =
      both (readField origin ms' key default s) (rest.read origin ms')
    rw [readField_congr hoptional.1 hkey, Fields.read_congr hoptional.2 hrest]

end

/-- **What one field adds to the problems of a record** whose fields are all optional: the problems
of its member, next to each other. Around them are the problems of the other fields, whatever the
member is. -/
theorem Fields.exists_problems_read (origin : Origin) {α : Type} {key : Key} {s : Shape α}
    {ms ms' : List (String × Json)} {name : String}
    (hfound : ∀ j, key.find? (ms ++ (name, j) :: ms') = some (name, j)) {ρ β : Type}
    {fields : Fields ρ β} (h : fields.Declares key s) (hoptional : fields.Optional)
    (hkeys : fields.keys.Pairwise Key.Apart) :
    ∃ before after : List Problem,
      (∀ j, problems (fields.read origin (ms ++ (name, j) :: ms')) =
        before ++ (problems (s.read origin j)).map (Problem.under (.member name)) ++ after) ∧
      ∀ p ∈ before ++ after, ∀ path, p.path ≠ .member name :: path := by
  have hname : key.Names name := Key.names_of_find? (hfound .null)
  -- The member is none of another field, so that field is read as if it were not there.
  have hother : ∀ {other : Key}, key.Apart other → ∀ j,
      other.find? (ms ++ (name, j) :: ms') = other.find? (ms ++ ms') := by
    intro other hapart j
    have hunused : other.Unused [(name, j)] := by
      intro m hm
      obtain rfl := List.mem_singleton.1 hm
      exact ⟨hapart.ne hname (.inl rfl), hapart.ne hname (.inr rfl)⟩
    exact Key.find?_of_unused_between hunused ms ms'
  have houtside : ∀ {other : Key} {p : Problem}, key.Apart other →
      (∃ name' path, other.Names name' ∧ p.path = .member name' :: path) →
        ∀ path, p.path ≠ .member name :: path := by
    rintro other p hapart ⟨name', path', hname', hpath'⟩ path hpath
    rw [hpath'] at hpath
    exact hapart.ne hname hname' (Step.member.inj (List.cons.inj hpath).1).symm
  -- The problems of the fields that are declared earlier come before those of the member.
  induction h with
  | @head β default get rest =>
    obtain ⟨hkey, hrest⟩ := List.pairwise_cons.1 hkeys
    refine ⟨[], problems (rest.read origin (ms ++ ms')), fun j => ?_, fun p hp => ?_⟩
    · show problems (both (readField origin _ key default s) (rest.read origin _)) = _
      rw [problems_both, Fields.read_congr hoptional.2 fun other hm => hother (hkey other hm) j]
      simp only [readField, hfound, problems_under, List.nil_append]
    · obtain ⟨other, hm, hplace⟩ := Fields.path_of_mem_read hp
      exact houtside (hkey other hm) hplace
  | @tail β γ other default get t rest hrest ih =>
    obtain ⟨hkey, hkeys⟩ := List.pairwise_cons.1 hkeys
    have hapart : key.Apart other := (hkey key hrest.mem_keys).symm
    obtain ⟨before, after, hproblems, hpaths⟩ := ih hoptional.2 hkeys
    refine ⟨problems (readField origin (ms ++ ms') other default t) ++ before, after, fun j => ?_,
      fun p hp => ?_⟩
    · show problems (both (readField origin _ other default t) (rest.read origin _)) = _
      rw [problems_both, hproblems, readField_congr hoptional.1 (hother hapart j)]
      simp only [List.append_assoc]
    · rw [List.append_assoc, List.mem_append] at hp
      rcases hp with hp | hp
      · exact houtside hapart (path_of_mem_readField hp)
      · exact hpaths p hp

/-- The problems of entries are those of each of them. -/
theorem problems_readEntries_append {α : Type} (read : Json → Checked α)
    (es es' : List (String × Json)) :
    problems (readEntries read (es ++ es')) =
      problems (readEntries read es) ++ problems (readEntries read es') := by
  induction es with
  | nil => rfl
  | cons e es ih =>
    simp only [List.cons_append, readEntries, problems_map, problems_both, ih, List.append_assoc]

/-- What one entry adds to the problems of a dictionary. -/
theorem problems_read_dict {α : Type} (s : Shape α) (origin : Origin)
    (es es' : List (String × Json)) (name : String) (j : Json) :
    problems ((Shape.dict s).read origin (.object (es ++ (name, j) :: es'))) =
      problems (readEntries (s.read origin) es) ++
        (problems (s.read origin j)).map (Problem.under (.member name)) ++
        problems (readEntries (s.read origin) es') := by
  show problems ((readEntries (s.read origin) _).map Dict.ofList) = _
  rw [problems_map, problems_readEntries_append, readEntries, problems_map, problems_both,
    problems_under, List.append_assoc]

/-- If every choice of values makes a record, its problems are those of its fields. -/
theorem problems_read_record {α β : Type} {fields : Fields α β} {make : β → Except Fault α}
    (hmake : ∀ b, ∃ a, make b = .ok a) (origin : Origin) (ms : List (String × Json)) :
    problems ((Shape.record fields make).read origin (.object ms)) =
      problems (fields.read origin ms) := by
  show problems ((fields.read origin ms).bind fun b => orFail (.object ms) (make b)) = _
  cases fields.read origin ms with
  | error ps => rfl
  | ok b =>
    obtain ⟨a, ha⟩ := hmake b
    show problems (orFail (.object ms) (make b)) = []
    rw [ha]
    rfl

end Wire

open Wire

namespace Snapshot

/-! ## Entries -/

/-- **The dictionaries of a snapshot**, by their fields, with the contracts of their entries. -/
inductive Keeps : Key → {α : Type} → Contract α → Prop
  | buckets : Keeps (.plain "buckets") .bucket
  | allocations : Keeps (.plain "allocations") .allocation
  | definitions : Keeps ⟨"testDefinitions", "test_definitions"⟩ .definition

/-- A snapshot is a record of optional fields, among them its dictionaries. -/
theorem Keeps.exists_declares {key : Key} {α : Type} {c : Contract α} (h : Keeps key c) :
    ∃ (β : Type) (fields : Fields Snapshot β) (make : β → Except Fault Snapshot),
      shape = .record fields make ∧ (∀ b, ∃ a, make b = .ok a) ∧ fields.Optional ∧
        fields.keys.Pairwise Key.Apart ∧ fields.Declares key (.dict c.shape) := by
  refine ⟨_, _, _, rfl, fun _ => ⟨_, rfl⟩, by simp [Fields.Optional], by decide, ?_⟩
  cases h with
  | buckets => exact .tail .head
  | allocations => exact .tail (.tail .head)
  | definitions => exact .tail (.tail (.tail .head))

/-- **A snapshot with a gap for one entry** of a dictionary: the members around the dictionary, by
the name that it has, and the entries around the gap, by the name of the test. The dictionary is the
one that is read, whatever is in it. -/
structure Gap (key : Key) where
  name : String
  before : List (String × Json)
  after : List (String × Json)
  found : ∀ j, key.find? (before ++ (name, j) :: after) = some (name, j)
  test : String
  entriesBefore : List (String × Json)
  entriesAfter : List (String × Json)

namespace Gap

variable {key : Key}

/-- **The snapshot with an entry in the gap.** -/
def fill (g : Gap key) (entry : Json) : Json :=
  .object (g.before ++ (g.name, .object (g.entriesBefore ++ (g.test, entry) :: g.entriesAfter)) ::
    g.after)

/-- The place of the gap. -/
def place (g : Gap key) : List Step := [.member g.name, .member g.test]

/-- A problem of an entry, seen from the snapshot. -/
def seen (g : Gap key) (p : Problem) : Problem := (p.under (.member g.test)).under (.member g.name)

/-- That no other entry of the dictionary has the name of the test. -/
def IsUnrepeated (g : Gap key) : Prop := ∀ e ∈ g.entriesBefore ++ g.entriesAfter, e.1 ≠ g.test

/-- **An entry is reported on its own**: what is reported of it alone stands together, at its place,
and what is reported around it does not depend on it. If the name of the test is not repeated, there
is nothing else at the place. -/
structure Isolates (g : Gap key) {α : Type} (c : Contract α) (origin : Origin) : Prop where
  surrounded : ∃ before after : List Problem, ∀ entry, problems (shape.read origin (g.fill entry)) =
    before ++ (problems (c.shape.read origin entry)).map g.seen ++ after
  own : g.IsUnrepeated → ∀ entry,
    (problems (shape.read origin (g.fill entry))).filter (fun p => g.place <+: p.path) =
      (problems (c.shape.read origin entry)).map g.seen
  others : g.IsUnrepeated → ∀ entry entry',
    (problems (shape.read origin (g.fill entry))).filter (fun p => ¬ g.place <+: p.path) =
      (problems (shape.read origin (g.fill entry'))).filter (fun p => ¬ g.place <+: p.path)

/-- The problems of a snapshot with an entry in the gap. -/
theorem exists_problems_fill (g : Gap key) {α : Type} {c : Contract α} (h : Keeps key c)
    (origin : Origin) :
    ∃ before after : List Problem,
      (∀ entry, problems (shape.read origin (g.fill entry)) =
        before ++ (problems (c.shape.read origin entry)).map g.seen ++ after) ∧
      (g.IsUnrepeated → ∀ p ∈ before ++ after, ¬ g.place <+: p.path) := by
  obtain ⟨β, fields, make, hshape, hmake, hoptional, hkeys, hdeclares⟩ := h.exists_declares
  obtain ⟨before, after, hproblems, hpaths⟩ :=
    Fields.exists_problems_read origin g.found hdeclares hoptional hkeys
  -- In front of the entry are the earlier fields, then the earlier entries of its dictionary.
  refine ⟨before ++
      (problems (readEntries (c.shape.read origin) g.entriesBefore)).map
        (Problem.under (.member g.name)),
    (problems (readEntries (c.shape.read origin) g.entriesAfter)).map
        (Problem.under (.member g.name)) ++ after, fun entry => ?_, fun hunrepeated p hp => ?_⟩
  · rw [hshape, fill, problems_read_record hmake, hproblems, problems_read_dict]
    simp only [List.map_append, List.map_map, List.append_assoc]
    rfl
  · -- Other fields have problems at other members, and other entries at other names.
    have hentries : ∀ es : List (String × Json), (∀ e ∈ es, e.1 ≠ g.test) →
        ∀ q ∈ problems (readEntries (c.shape.read origin) es),
          ¬ g.place <+: (q.under (.member g.name)).path := by
      intro es hes q hq hprefix
      obtain ⟨e, he, path, hpath⟩ := path_of_mem_readEntries hq
      have hcons : [.member g.test] <+: q.path := (List.cons_prefix_cons.1 hprefix).2
      rw [hpath] at hcons
      exact hes e he (Step.member.inj (List.cons_prefix_cons.1 hcons).1).symm
    have hfields : ∀ q ∈ before ++ after, ¬ g.place <+: q.path := by
      rintro q hq ⟨path, hpath⟩
      exact hpaths q hq (.member g.test :: path) hpath.symm
    obtain ⟨hbefore, hafter⟩ := List.forall_mem_append.1 hunrepeated
    obtain ⟨hfront, hback⟩ := List.forall_mem_append.1 hfields
    simp only [List.mem_append, List.mem_map] at hp
    rcases hp with (hp | ⟨q, hq, rfl⟩) | ⟨q, hq, rfl⟩ | hp
    · exact hfront p hp
    · exact hentries _ hbefore q hq
    · exact hentries _ hafter q hq
    · exact hback p hp

/-- **Entries are reported on their own.** -/
theorem isolates (g : Gap key) {α : Type} {c : Contract α} (h : Keeps key c) (origin : Origin) :
    g.Isolates c origin := by
  obtain ⟨before, after, hproblems, hpaths⟩ := g.exists_problems_fill h origin
  have hseen : ∀ ps : List Problem, ∀ p ∈ ps.map g.seen, g.place <+: p.path := by
    intro ps p hp
    obtain ⟨q, -, rfl⟩ := List.mem_map.1 hp
    exact ⟨q.path, rfl⟩
  refine ⟨⟨before, after, hproblems⟩, fun hunrepeated entry => ?_,
    fun hunrepeated entry entry' => ?_⟩
  · obtain ⟨hbefore, hafter⟩ := List.forall_mem_append.1 (hpaths hunrepeated)
    have hown := hseen (problems (c.shape.read origin entry))
    rw [hproblems, List.filter_append, List.filter_append,
      List.filter_eq_nil_iff.2 (by simpa using hbefore), List.filter_eq_self.2 (by simpa using hown),
      List.filter_eq_nil_iff.2 (by simpa using hafter), List.nil_append, List.append_nil]
  · -- Without the problems of the entry, what is around it is left.
    have hothers : ∀ e, (problems (shape.read origin (g.fill e))).filter
        (fun p => ¬ g.place <+: p.path) = (before ++ after).filter fun p => ¬ g.place <+: p.path := by
      intro e
      have hnone : ((problems (c.shape.read origin e)).map g.seen).filter
          (fun p => ¬ g.place <+: p.path) = [] :=
        List.filter_eq_nil_iff.2 fun p hp => by simpa using hseen _ p hp
      rw [hproblems, List.filter_append, List.filter_append, hnone, List.append_nil,
        List.filter_append]
    rw [hothers, hothers]

end Gap

/-- **Every entry stands in a gap**, of the dictionary that is read. -/
theorem exists_gap {key : Key} {ms es : List (String × Json)} {name test : String} {entry : Json}
    (hdict : key.find? ms = some (name, .object es)) (hentry : (test, entry) ∈ es) :
    ∃ g : Gap key, g.fill entry = .object ms ∧ g.place = [.member name, .member test] ∧
      ((es.map Prod.fst).Nodup → g.IsUnrepeated) := by
  -- The dictionary is the last member of its name; of a repeated entry any one will do.
  obtain ⟨before, after, rfl, hfound⟩ := Key.exists_of_find? hdict
  obtain ⟨entriesBefore, entriesAfter, rfl⟩ := List.append_of_mem hentry
  refine ⟨⟨name, before, after, hfound, test, entriesBefore, entriesAfter⟩, rfl, rfl,
    fun hnodup e he hname => ?_⟩
  rw [List.map_append, List.map_cons, List.nodup_middle, List.nodup_cons, ← List.map_append]
    at hnodup
  have hmem : test ∈ (entriesBefore ++ entriesAfter).map Prod.fst :=
    List.mem_map.2 ⟨e, he, hname⟩
  exact hnodup.1 hmem

end Snapshot

namespace Contract

/-- **What is reported of contracts, and of the entries of a snapshot on their own.** Of every value
a contract is read, or there is a problem. Problems are in the order of the description, each is at
a part of the value or lacked by one, and if no object repeats a name, their places lie apart. The
same holds of the value in a document. In a snapshot every entry of a dictionary is reported as its
contract reports it alone, and what is reported around it does not depend on it. -/
theorem reports_independently (origin : Origin) :
    (∀ {α : Type} (c : Contract α) (j : Json), c.shape.Reports j (c.shape.read origin j)) ∧
    (∀ {α : Type} (c : Contract α) (document : String) (j : Json),
      Json.read? .strict document.toList = some j → c.shape.Reports j (c.shape.ofText document)) ∧
    ∀ {α : Type} {key : Key} (c : Contract α), Snapshot.Keeps key c →
      (∀ {ms es : List (String × Json)} {name test : String} {entry : Json},
        key.find? ms = some (name, .object es) → (test, entry) ∈ es →
          ∃ g : Snapshot.Gap key, g.fill entry = .object ms ∧
            g.place = [.member name, .member test] ∧
              ((es.map Prod.fst).Nodup → g.IsUnrepeated)) ∧
      ∀ g : Snapshot.Gap key, g.Isolates c origin := by
  have hreports : ∀ {α : Type} (c : Contract α) (origin : Origin) (j : Json),
      c.shape.Reports j (c.shape.read origin j) :=
    fun c origin j => Shape.reports c.lawful c.missesFieldsOnly origin j
  refine ⟨fun c j => hreports c origin j, fun c document j hj => ?_, fun c hkeeps => ⟨?_, ?_⟩⟩
  · have hread : c.shape.ofText document = c.shape.read .document j := by
      rw [Shape.ofText, hj]
    exact hread ▸ hreports c .document j
  · exact fun hdict hentry => Snapshot.exists_gap hdict hentry
  · exact fun g => g.isolates hkeeps origin

/-- A gap for the definition of a page, next to a definition that is none. -/
def pageGap : Snapshot.Gap ⟨"testDefinitions", "test_definitions"⟩ where
  name := "test_definitions"
  before := [("matrixVersion", .int 1)]
  after := []
  found _ := rfl
  test := "page"
  entriesBefore := [("menu", .null)]
  entriesAfter := []

/-- A definition with a bucket that has no name, and whose value is not in order. -/
def unnamed : Json := .object [("buckets", .array [.object [("value", .text "x")]])]

/-- The problems of the definition are those that it has alone, after the problems of the version
and of the other definition. -/
theorem reports_independently_unnamed :
    (problems (Snapshot.shape.read .value (pageGap.fill unnamed))).map
        (fun p => (p.path, p.fault)) =
      [([.member "matrixVersion"], .notText),
        ([.member "test_definitions", .member "menu"], .notRecord),
        ([.member "test_definitions", .member "page", .member "buckets", .item 0, .member "name"],
          .missing),
        ([.member "test_definitions", .member "page", .member "buckets", .item 0, .member "value"],
          .integerSyntax)] ∧
    ((problems (Snapshot.shape.read .value (pageGap.fill unnamed))).Pairwise
      fun p q => Apart p.path q.path) ∧
    (problems (Snapshot.shape.read .value (pageGap.fill unnamed))).filter
        (fun p => pageGap.place <+: p.path) =
      (problems (Definition.shape.read .value unnamed)).map pageGap.seen := by
  obtain ⟨hreports, -, hentries⟩ := reports_independently .value
  have hsettled : (pageGap.fill unnamed).settled = pageGap.fill unnamed := by decide +kernel
  have hunrepeated : pageGap.IsUnrepeated := by
    intro e he
    obtain rfl := List.mem_singleton.1 he
    decide
  refine ⟨by decide +kernel, (hreports .snapshot _).apart hsettled, ?_⟩
  exact ((hentries .definition .definitions).2 pageGap).own hunrepeated unnamed

/-- A document in which the name of a test is repeated, with buckets that are none. -/
def repeated : String := "\x7b\"buckets\":\x7b\"a\":5,\"a\":6\x7d\x7d"

/-- **Repeated names have problems at one place**, so places need not be distinct in a document. -/
theorem not_distinct_of_repeated :
    (problems (Snapshot.ofText repeated)).map Problem.path =
        [[.member "buckets", .member "a"], [.member "buckets", .member "a"]] ∧
      ¬ ((problems (Snapshot.ofText repeated)).map Problem.path).Nodup := by
  have hplaces : (problems (Snapshot.ofText repeated)).map Problem.path =
      [[.member "buckets", .member "a"], [.member "buckets", .member "a"]] := by
    decide +kernel
  refine ⟨hplaces, ?_⟩
  rw [hplaces]
  decide

end Contract

end ExperimentGroups
