import ExperimentGroups.Proofs.Projection
import Mathlib.Data.List.Sort
import Mathlib.Data.List.TakeWhile
import Mathlib.Data.String.Basic

/-!
# What the renderings say

Where every test has an effective value, a rendering is a text of these values. The logging string
has two segments, one for each form of an entry, with the tests whose value is not negative in the
order of their names; it fails only if one of these values is too long to be written. The long
string has an entry for every test.

## Main definitions

* `Groups.loggedEntry`, `Groups.segment`: the entry of a logged test, and those of some tests
* `Groups.isLoggable`: that the values of the logged tests are short enough to be written
* `Groups.configured`: the effective values of the logged tests

## Main results

* `eq_sortNames`: the sorted names are the one sorted list of them
* `exists_sortNames_split`: where one more name comes into the sorted names
* `Groups.reply_loggingString`, `Groups.reply_longString`: the two strings
* `Groups.reply_configuration`, `Groups.get?_configured`: the configuration
* `Groups.reply_requested`: a test of the configuration for requested tests
-/

namespace ExperimentGroups

/-! ## Sorted names -/

theorem sortNames_perm (names : List String) : (sortNames names).Perm names :=
  List.mergeSort_perm names _

theorem pairwise_sortNames (names : List String) : (sortNames names).Pairwise (· ≤ ·) := by
  have htrans : ∀ a b c : String, decide (a ≤ b) → decide (b ≤ c) → decide (a ≤ c) := by
    intro a b c hab hbc
    exact decide_eq_true (String.le_trans (of_decide_eq_true hab) (of_decide_eq_true hbc))
  have htotal : ∀ a b : String, decide (a ≤ b) || decide (b ≤ a) := by
    intro a b
    simpa using String.le_total a b
  exact (List.pairwise_mergeSort htrans htotal names).imp of_decide_eq_true

/-- **The sorted names are the one sorted list of them.** -/
theorem eq_sortNames {names sorted : List String} (hperm : sorted.Perm names)
    (hsorted : sorted.Pairwise (· ≤ ·)) : sortNames names = sorted :=
  List.Perm.eq_of_pairwise (fun _ _ _ _ => String.le_antisymm) (pairwise_sortNames names) hsorted
    ((sortNames_perm names).trans hperm.symm)

theorem sortNames_filter (p : String → Bool) (names : List String) :
    sortNames (names.filter p) = (sortNames names).filter p :=
  eq_sortNames ((sortNames_perm names).filter p) ((pairwise_sortNames names).filter p)

/-- **Where one more name comes into the sorted names**: behind the smaller ones and in front of the
greater ones. -/
theorem exists_sortNames_split {names : List String} {name : String} (h : name ∉ names) :
    ∃ before after, sortNames names = before ++ after ∧
      sortNames (name :: names) = before ++ name :: after ∧
      (∀ other ∈ before, other < name) ∧ ∀ other ∈ after, name < other := by
  have hsorted := pairwise_sortNames names
  have hsplit : (sortNames names).takeWhile (decide <| · < name) ++
      (sortNames names).dropWhile (decide <| · < name) = sortNames names :=
    List.takeWhile_append_dropWhile
  have hbefore : ∀ other ∈ (sortNames names).takeWhile (decide <| · < name), other < name :=
    fun _ hm => of_decide_eq_true (List.mem_takeWhile_imp (p := (decide <| · < name)) hm)
  have hafter : ∀ other ∈ (sortNames names).dropWhile (decide <| · < name), name < other := by
    intro other hm
    -- The first of the names that are left is not smaller, and the others come behind it.
    have hle : name ≤ other := by
      cases hd : (sortNames names).dropWhile (decide <| · < name) with
      | nil =>
        rw [hd] at hm
        cases hm
      | cons first rest =>
        have hfirst : name ≤ first := by
          have hnot := List.head?_dropWhile_not (decide <| · < name) (sortNames names)
          rw [hd] at hnot
          exact le_of_not_gt (of_decide_eq_false hnot)
        rw [hd] at hm
        rw [← hsplit, hd] at hsorted
        have hrest := (List.pairwise_append.1 hsorted).2.1
        rcases List.mem_cons.1 hm with rfl | hm
        · exact hfirst
        · exact String.le_trans hfirst (List.rel_of_pairwise_cons hrest hm)
    have hmem : other ∈ names :=
      (sortNames_perm names).subset ((List.dropWhile_suffix _).subset hm)
    exact lt_of_le_of_ne hle fun he => h (he ▸ hmem)
  refine ⟨_, _, hsplit.symm, eq_sortNames ?_ ?_, hbefore, hafter⟩
  · refine List.perm_middle.trans (List.Perm.cons name ?_)
    rw [hsplit]
    exact sortNames_perm names
  · rw [← hsplit] at hsorted
    obtain ⟨hb, ha, hba⟩ := List.pairwise_append.1 hsorted
    refine List.pairwise_append.2 ⟨hb, List.pairwise_cons.2 ⟨?_, ha⟩, ?_⟩
    · exact fun other hm => (hafter other hm).le
    · intro other hm later hlater
      rcases List.mem_cons.1 hlater with rfl | hlater
      · exact (hbefore other hm).le
      · exact hba other hm later hlater

namespace Groups

variable {g : Groups}

/-! ## Entries -/

/-- The entry of a test that is logged, if it has one of the form. -/
def loggedEntry (g : Groups) (form : EntryForm) (test : String) : Option String :=
  ((g.valueOf test).filter (0 ≤ ·)).bind (g.snapshot.entry? form test)

/-- **The entries of the logged tests** among some tests. -/
def segment (g : Groups) (form : EntryForm) (names : List String) : List String :=
  names.filterMap (g.loggedEntry form)

/-- Whether the values of the logged tests among some tests are short enough to be written. -/
def isLoggable (g : Groups) (names : List String) : Bool :=
  names.all fun test => ((g.valueOf test).filter (0 ≤ ·)).all Text.isWithinDigits

/-- Whether a test is logged. -/
def isLogged (g : Groups) (test : String) : Bool := (g.valueOf test).any (0 ≤ ·)

theorem loggedEntry_plain (g : Groups) (test : String) :
    g.loggedEntry .plain test =
      ((g.valueOf test).filter (0 ≤ ·)).map fun e => test ++ Text.integerText e := by
  cases h : (g.valueOf test).filter (0 ≤ ·) <;> simp [loggedEntry, h, Snapshot.entry?]

theorem segment_append (g : Groups) (form : EntryForm) (names others : List String) :
    g.segment form (names ++ others) = g.segment form names ++ g.segment form others :=
  List.filterMap_append

theorem reply_value (h : g.Resolves) (test : String) (default : Int) :
    g.reply (.value test default) = .ok ((g.valueOf test).getD default) := by
  rw [Query.value, reply_bind, h.reply_ask]
  rfl

theorem zip_map_self {α β : Type} (l : List α) (f : α → β) :
    l.zip (l.map f) = l.map fun a => (a, f a) := by
  induction l with
  | nil => rfl
  | cons a l ih => rw [List.map_cons, List.zip_cons_cons, ih, List.map_cons]

theorem filter_zip_map_fst {α β : Type} (l : List α) (f : α → β) (p : β → Bool) :
    (((l.zip (l.map f)).filter fun x => p x.2).map Prod.fst) = l.filter fun a => p (f a) := by
  rw [zip_map_self, List.filter_map, List.map_map]
  exact List.map_id' _

/-- **The logged tests** are those whose value is not negative. -/
theorem reply_loggedNames (h : g.Resolves) :
    g.reply (.loggedNames g.snapshot) = .ok (g.snapshot.buckets.keys.filter g.isLogged) := by
  rw [Query.loggedNames, reply_bind, reply_mapM,
    mapM_eq_ok fun test _ => reply_value h test (-1)]
  refine congrArg Except.ok ((filter_zip_map_fst _ _ fun n => decide (0 ≤ n)).trans ?_)
  refine List.filter_congr fun test _ => ?_
  cases hv : g.valueOf test <;> simp [isLogged, hv]

/-- The entry of a test, which fails if it has one and its value is too long. -/
theorem reply_entry (h : g.Resolves) (form : EntryForm) (test : String) :
    g.reply (.entry g.snapshot form test) =
      match (g.valueOf test).bind (g.snapshot.entry? form test) with
      | none => .ok none
      | some text =>
        if (g.valueOf test).all Text.isWithinDigits then .ok (some text) else .error .excess := by
  rw [Query.entry, reply_bind, h.reply_ask]
  show g.reply (match (g.valueOf test).bind (g.snapshot.entry? form test) with
    | none => pure none
    | some text => do
      Query.write (g.valueOf test).toList
      pure (some text)) = _
  cases he : (g.valueOf test).bind (g.snapshot.entry? form test) with
  | none => rfl
  | some text =>
    simp only [reply_bind, reply_write]
    cases hv : g.valueOf test with
    | none =>
      rw [hv] at he
      cases he
    | some e =>
      by_cases hd : Text.isWithinDigits e <;> simp [hd] <;> rfl

theorem reply_entry_of_logged (h : g.Resolves) {form : EntryForm} {test : String}
    (hl : g.isLogged test = true) (hd : g.isLoggable [test] = true) :
    g.reply (.entry g.snapshot form test) = .ok (g.loggedEntry form test) := by
  rw [reply_entry h, loggedEntry]
  cases hv : g.valueOf test with
  | none => rfl
  | some e =>
    have he : 0 ≤ e := by simpa [isLogged, hv] using hl
    have hw : Text.isWithinDigits e = true := by
      simpa [isLoggable, hv, Option.filter, he] using hd
    simp only [Option.bind_some, Option.filter_some, he, decide_true, if_true, Option.all_some, hw]
    cases g.snapshot.entry? form test e <;> rfl

theorem reply_entry_plain_of_excess (h : g.Resolves) {test : String}
    (hl : g.isLogged test = true) (hd : g.isLoggable [test] = false) :
    g.reply (.entry g.snapshot .plain test) = .error .excess := by
  rw [reply_entry h]
  cases hv : g.valueOf test with
  | none => simp [isLogged, hv] at hl
  | some e =>
    have he : 0 ≤ e := by simpa [isLogged, hv] using hl
    have hw : Text.isWithinDigits e = false := by
      simpa [isLoggable, hv, Option.filter, he] using hd
    simp [Snapshot.entry?, hw]

theorem isLoggable_cons (g : Groups) (test : String) (names : List String) :
    g.isLoggable (test :: names) = (g.isLoggable [test] && g.isLoggable names) := by
  simp [isLoggable]

theorem isLoggable_append (g : Groups) (names others : List String) :
    g.isLoggable (names ++ others) = (g.isLoggable names && g.isLoggable others) :=
  List.all_append

/-- What is not logged has no entry and is never in the way. -/
theorem isLoggable_of_not_logged {test : String} (hl : g.isLogged test = false) :
    g.isLoggable [test] = true := by
  cases hv : g.valueOf test with
  | none => simp [isLoggable, hv]
  | some e =>
    have he : e < 0 := by simpa [isLogged, hv] using hl
    simp [isLoggable, hv, Option.filter, not_le.2 he]

theorem loggedEntry_of_not_logged {test : String} (hl : g.isLogged test = false)
    (form : EntryForm) : g.loggedEntry form test = none := by
  cases hv : g.valueOf test with
  | none => simp [loggedEntry, hv]
  | some e =>
    have he : e < 0 := by simpa [isLogged, hv] using hl
    simp [loggedEntry, hv, Option.filter, not_le.2 he]

theorem segment_cons (g : Groups) (form : EntryForm) (test : String) (names : List String) :
    g.segment form (test :: names) = (g.loggedEntry form test).toList ++ g.segment form names := by
  cases h : g.loggedEntry form test <;> simp [segment, h]

theorem segment_filter_isLogged (g : Groups) (form : EntryForm) (names : List String) :
    g.segment form (names.filter g.isLogged) = g.segment form names := by
  induction names with
  | nil => rfl
  | cons test names ih =>
    cases hl : g.isLogged test with
    | true => rw [List.filter_cons_of_pos hl, segment_cons, segment_cons, ih]
    | false =>
      rw [List.filter_cons_of_neg (by simp [hl]), ih, segment_cons, loggedEntry_of_not_logged hl]
      rfl

theorem isLoggable_filter_isLogged (g : Groups) (names : List String) :
    g.isLoggable (names.filter g.isLogged) = g.isLoggable names := by
  induction names with
  | nil => rfl
  | cons test names ih =>
    cases hl : g.isLogged test with
    | true =>
      rw [List.filter_cons_of_pos hl, isLoggable_cons, ih, ← isLoggable_cons]
    | false =>
      rw [List.filter_cons_of_neg (by simp [hl]), ih, g.isLoggable_cons test,
        isLoggable_of_not_logged hl, Bool.true_and]

/-- The entries of logged tests whose values can be written. -/
theorem reply_entries (h : g.Resolves) (form : EntryForm) {names : List String}
    (hl : ∀ test ∈ names, g.isLogged test = true) (hd : g.isLoggable names = true) :
    g.reply (.entries g.snapshot form names) = .ok (g.segment form names) := by
  have hentries : ∀ test ∈ names, g.reply (.entry g.snapshot form test) =
      .ok (g.loggedEntry form test) := by
    intro test hm
    refine reply_entry_of_logged h (hl test hm) ?_
    simpa [isLoggable] using (List.all_eq_true.1 hd) test hm
  rw [Query.entries, reply_bind, reply_mapM, mapM_eq_ok hentries]
  refine congrArg Except.ok ?_
  rw [List.filterMap_map, segment]
  rfl

theorem reply_entries_plain_of_excess (h : g.Resolves) {names : List String}
    (hl : ∀ test ∈ names, g.isLogged test = true) (hd : g.isLoggable names = false) :
    g.reply (.entries g.snapshot .plain names) = .error .excess := by
  have herror : names.mapM (fun test => g.reply (.entry g.snapshot .plain test)) =
      .error .excess := by
    refine mapM_eq_error (fun test hm => ?_) ?_
    · cases ht : g.isLoggable [test] with
      | true => exact .inr ⟨_, reply_entry_of_logged h (hl test hm) ht⟩
      | false => exact .inl (reply_entry_plain_of_excess h (hl test hm) ht)
    · obtain ⟨test, hm, ht⟩ := List.all_eq_false.1 hd
      refine ⟨test, hm, reply_entry_plain_of_excess h (hl test hm) ?_⟩
      simpa [isLoggable] using ht
  rw [Query.entries, reply_bind, reply_mapM, herror]
  rfl

/-! ## The texts -/

/-- The entries of both forms for the logged tests among some tests, unless one of their values is
too long to be written. -/
theorem reply_bothEntries (h : g.Resolves) (separator : String) (names : List String) :
    g.reply (.bothEntries g.snapshot separator (names.filter g.isLogged)) =
      if g.isLoggable names then
        .ok (separator.intercalate (g.segment .plain names ++ g.segment .allocated names))
      else .error .excess := by
  have hlogged : ∀ test ∈ names.filter g.isLogged, g.isLogged test = true :=
    fun test hm => (List.mem_filter.1 hm).2
  have hfilter := g.isLoggable_filter_isLogged names
  rw [Query.bothEntries, reply_bind]
  cases hd : g.isLoggable names with
  | true =>
    rw [hd] at hfilter
    rw [reply_entries h .plain hlogged hfilter]
    show g.reply (Query.entries g.snapshot .allocated _ >>= _) = _
    rw [reply_bind, reply_entries h .allocated hlogged hfilter, segment_filter_isLogged,
      segment_filter_isLogged]
    rfl
  | false =>
    rw [hd] at hfilter
    rw [reply_entries_plain_of_excess h hlogged hfilter]
    rfl

/-- **The entries of all logged tests**, in the order of the snapshot. -/
theorem reply_allEntries (h : g.Resolves) (separator : String) :
    g.reply (.allEntries g.snapshot separator) =
      if g.isLoggable g.snapshot.buckets.keys then
        .ok (separator.intercalate (g.segment .plain g.snapshot.buckets.keys ++
          g.segment .allocated g.snapshot.buckets.keys))
      else .error .excess := by
  rw [Query.allEntries, reply_bind, reply_loggedNames h]
  exact reply_bothEntries h separator g.snapshot.buckets.keys

/-- **The logging string**: two segments with the logged tests in the order of their names, unless
one of their values is too long to be written. -/
theorem reply_loggingString (h : g.Resolves) :
    g.reply (.loggingString g.snapshot) =
      if g.isLoggable (sortNames g.snapshot.buckets.keys) then
        .ok (",".intercalate (g.segment .plain (sortNames g.snapshot.buckets.keys) ++
          g.segment .allocated (sortNames g.snapshot.buckets.keys)))
      else .error .excess := by
  rw [Query.loggingString, reply_bind, reply_loggedNames h]
  show g.reply (Query.bothEntries g.snapshot ","
    (sortNames (g.snapshot.buckets.keys.filter g.isLogged))) = _
  rw [sortNames_filter, reply_bothEntries h]

/-- **The long string** has an entry for every test, in the order of the names. -/
theorem reply_longString (g : Groups) :
    g.reply (.longString g.snapshot) =
      ((sortNames g.snapshot.buckets.keys).mapM fun test =>
        g.reply (.described g.snapshot test)).map (",".intercalate ·) := by
  rw [Query.longString, reply_bind, reply_mapM]
  cases (sortNames g.snapshot.buckets.keys).mapM fun test =>
    g.reply (.described g.snapshot test) <;> rfl

/-! ## The configuration -/

/-- The effective values of the logged tests. -/
def configured (g : Groups) : Dict Int :=
  .ofList ((g.snapshot.buckets.keys.filter g.isLogged).map fun test =>
    (test, (g.valueOf test).getD (-1)))

/-- **The configuration** has the value of every logged test. -/
theorem reply_configuration (h : g.Resolves) :
    g.reply (.configuration g.snapshot) = .ok g.configured := by
  rw [Query.configuration, reply_bind, reply_loggedNames h]
  show g.reply (List.mapM (fun test => Query.value test (-1)) _ >>= _) = _
  rw [reply_bind, reply_mapM, mapM_eq_ok fun test _ => reply_value h test (-1)]
  exact congrArg (fun entries => Except.ok (Dict.ofList entries)) (zip_map_self _ _)

/-- A test is in the configuration exactly if it is logged, with its effective value. -/
theorem get?_configured (g : Groups) (test : String) :
    g.configured.get? test = (g.valueOf test).filter (0 ≤ ·) := by
  have hentries : g.configured.entries = _ := Dict.entries_ofList (by
    rw [List.map_map]
    exact (g.snapshot.buckets.distinct.filter g.isLogged).map fun _ _ h => h)
  refine Option.ext fun e => ?_
  rw [← Dict.mem_entries_iff, hentries, List.mem_map]
  constructor
  · rintro ⟨name, hname, heq⟩
    obtain ⟨rfl, rfl⟩ := Prod.mk.inj heq
    have hlogged := (List.mem_filter.1 hname).2
    cases hv : g.valueOf name with
    | none => simp [isLogged, hv] at hlogged
    | some e => simpa [isLogged, hv] using hlogged
  · intro he
    obtain ⟨hv, hle⟩ := Option.filter_eq_some_iff.1 he
    have hkey : test ∈ g.snapshot.buckets.keys := by
      by_contra hkey
      rw [g.valueOf_of_absent ((g.snapshot.buckets.get?_eq_none_iff test).2 hkey)] at hv
      cases hv
    refine ⟨test, List.mem_filter.2 ⟨hkey, ?_⟩, by rw [hv, Option.getD_some]⟩
    simpa [isLogged, hv] using hle

/-- **A requested test** has its value, and the payload that the query about it finds. -/
theorem reply_requested (h : g.Resolves) (test : RequestedTest) :
    g.reply (.requested g.snapshot test) =
      (g.reply (.payload g.snapshot test.name)).map fun payload =>
        ((g.valueOf test.name).getD test.fallbackValue, payload.value?) := by
  rw [Query.requested, reply_bind, reply_value h]
  exact reply_bind_pure _ _ _

end Groups

end ExperimentGroups
