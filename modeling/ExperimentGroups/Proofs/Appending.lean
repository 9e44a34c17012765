import ExperimentGroups.Proofs.Lawful
import ExperimentGroups.Proofs.Outputs
import ExperimentGroups.Settings
import ExperimentGroups.Text.Split

/-!
# Entries at the end of a buffer

The entries for some names are written to the end of a buffer, joined by a separator. A name that is
not in the snapshot has no entry, and an allocated entry also needs an identifier, so no separator
stands where there is no entry: the entries can be counted, added up over the names and split back
at a separator of one character that none of them holds. A value of too many digits is not written,
and no other entry is then.

## Main definitions

* `Snapshot.assignedEntries`: the entries for some names with their assigned values
* `Snapshot.IsWritable`: that all these values can be written
* `Groups.Appends`: what is written to a buffer, and how it is split back

## Main results

* `Text.split_joined`: joined texts are split back
* `Settings.exists_separator`: settings have a separator of one character
* `Groups.appends_entries`: entries are counted, added up and split back
-/

namespace ExperimentGroups

/-! ## Joined texts -/

/-- **Joined texts are split back**, if there are any and none holds the separator. -/
theorem Text.split_joined {separator : Char} {parts : List String} (hne : parts ≠ [])
    (h : ∀ part ∈ parts, separator ∉ part.toList) :
    (split separator ((String.singleton separator).intercalate parts).toList).map String.ofList =
      parts := by
  have hchars : ∀ part ∈ parts.map String.toList, separator ∉ part := by
    intro part hpart
    obtain ⟨text, htext, rfl⟩ := List.mem_map.1 hpart
    exact h text htext
  rw [String.toList_intercalate, String.toList_singleton,
    split_intercalate (by simpa using hne) hchars, List.map_map]
  simp [Function.comp_def]

/-- A text of one character. -/
theorem exists_singleton_of_readText {j : Json} {text : String}
    (h : Wire.readText 1 (some 1) j = .ok text) : ∃ c, text = String.singleton c := by
  cases j with
  | text s =>
    simp only [Wire.readText] at h
    split at h
    · cases h
    · next hleast =>
      split at h
      · cases h
      · next hmost =>
        cases h
        have hlength : text.toList.length = 1 := by
          rw [String.length_toList]
          simp only [Option.any_some, decide_eq_true_eq] at hmost
          omega
        obtain ⟨c, hc⟩ := List.length_eq_one_iff.1 hlength
        exact ⟨c, String.toList_injective (by rw [hc, String.toList_singleton])⟩
  | _ => cases h

/-- **Settings have a separator of one character.** -/
theorem Settings.exists_separator {bindings files : List (String × String)} {settings : Settings}
    (h : load bindings files = .ok settings) :
    ∃ separator, settings.separator = String.singleton separator := by
  obtain ⟨ms, -, hread, -⟩ := Wire.Shape.exists_of_read_record (by rintro b a ⟨⟩; rfl) h
  -- The separator is the third field.
  have hseparator := (Wire.Fields.read_field_eq_ok_iff.1
    (Wire.Fields.read_field_eq_ok_iff.1 (Wire.Fields.read_field_eq_ok_iff.1 hread).2).2).1
  rcases hseparator with ⟨name, j, -, hj⟩ | ⟨-, hdefault⟩
  · exact exists_singleton_of_readText hj
  · exact ⟨',', (Option.some.inj hdefault).symm⟩

/-! ## Entries with assigned values -/

namespace Snapshot

variable (s : Snapshot) (E : String → Int)

/-- The entry of a test with its assigned value, if it has one of the form. -/
def assignedEntry? : EntryForm → String → Option String
  | .plain, test => some (plainEntry E test)
  | .allocated, test => s.allocatedEntry? E test

/-- **The entries for some names**, in their order and as often as they come; a name that is not in
the snapshot has none. -/
def assignedEntries (form : EntryForm) (names : List String) : List String :=
  (names.filter fun test => decide (test ∈ s.buckets.keys)).filterMap (s.assignedEntry? E form)

/-- That the values of all entries for some names can be written. -/
def IsWritable (form : EntryForm) (names : List String) : Prop :=
  ∀ test ∈ names, test ∈ s.buckets.keys → (s.assignedEntry? E form test).isSome = true →
    Text.isWithinDigits (E test) = true

theorem assignedEntries_plain (names : List String) :
    s.assignedEntries E .plain names =
      (names.filter fun test => decide (test ∈ s.buckets.keys)).map (plainEntry E) :=
  congrFun List.filterMap_eq_map _

theorem assignedEntries_append (form : EntryForm) (names others : List String) :
    s.assignedEntries E form (names ++ others) =
      s.assignedEntries E form names ++ s.assignedEntries E form others := by
  rw [assignedEntries, List.filter_append, List.filterMap_append]
  rfl

theorem isWritable_append_iff (form : EntryForm) (names others : List String) :
    s.IsWritable E form (names ++ others) ↔ s.IsWritable E form names ∧ s.IsWritable E form others :=
  List.forall_mem_append

theorem entry?_eq_assignedEntry? (form : EntryForm) (test : String) :
    s.entry? form test (E test) = s.assignedEntry? E form test := by
  cases form with
  | plain => rfl
  | allocated => exact s.entry?_allocated E test

end Snapshot

namespace Groups

variable {g : Groups} {E : String → Int}

section Assigned

variable (h : g.Resolves)
  (hE : ∀ test, g.valueOf test = if test ∈ g.snapshot.buckets.keys then some (E test) else none)

include h hE

theorem reply_entry_of_absent (form : EntryForm) {test : String}
    (hm : test ∉ g.snapshot.buckets.keys) :
    g.reply (.entry g.snapshot form test) = .ok none := by
  rw [reply_entry h, hE, if_neg hm]
  rfl

theorem reply_entry_of_present (form : EntryForm) {test : String}
    (hm : test ∈ g.snapshot.buckets.keys) :
    g.reply (.entry g.snapshot form test) =
      if (g.snapshot.assignedEntry? E form test).isSome = true ∧
        Text.isWithinDigits (E test) = false then .error .excess
      else .ok (g.snapshot.assignedEntry? E form test) := by
  rw [reply_entry h, hE, if_pos hm, Option.bind_some, Snapshot.entry?_eq_assignedEntry?]
  cases g.snapshot.assignedEntry? E form test with
  | none => simp
  | some text => cases hd : Text.isWithinDigits (E test) <;> simp [hd]

/-- The entries for some names whose values can be written. -/
theorem reply_entries_of_isWritable {form : EntryForm} {names : List String}
    (hw : g.snapshot.IsWritable E form names) :
    g.reply (.entries g.snapshot form names) = .ok (g.snapshot.assignedEntries E form names) := by
  have hentry : ∀ test ∈ names, g.reply (.entry g.snapshot form test) =
      .ok (if decide (test ∈ g.snapshot.buckets.keys) then g.snapshot.assignedEntry? E form test
        else none) := by
    intro test ht
    by_cases hm : test ∈ g.snapshot.buckets.keys
    · rw [reply_entry_of_present h hE form hm, if_neg, if_pos (decide_eq_true hm)]
      rintro ⟨hsome, hexcess⟩
      rw [hw test ht hm hsome] at hexcess
      cases hexcess
    · rw [reply_entry_of_absent h hE form hm, if_neg (by simpa using hm)]
  rw [Query.entries, reply_bind, reply_mapM, mapM_eq_ok hentry, Snapshot.assignedEntries,
    List.filterMap_filter]
  exact congrArg Except.ok (List.filterMap_map ..)

/-- If one of the values cannot be written, no entry is. -/
theorem reply_entries_of_not_isWritable {form : EntryForm} {names : List String}
    (hw : ¬ g.snapshot.IsWritable E form names) :
    g.reply (.entries g.snapshot form names) = .error .excess := by
  have herror : names.mapM (fun test => g.reply (.entry g.snapshot form test)) =
      .error .excess := by
    -- Each entry is given or ends the query, and one of them ends it.
    refine mapM_eq_error (fun test _ => ?_) ?_
    · by_cases hm : test ∈ g.snapshot.buckets.keys
      · rw [reply_entry_of_present h hE form hm]
        split
        · exact .inl rfl
        · exact .inr ⟨_, rfl⟩
      · exact .inr ⟨_, reply_entry_of_absent h hE form hm⟩
    · simp only [Snapshot.IsWritable, not_forall] at hw
      obtain ⟨test, ht, hm, hsome, hexcess⟩ := hw
      refine ⟨test, ht, ?_⟩
      rw [reply_entry_of_present h hE form hm, if_pos ⟨hsome, by simpa using hexcess⟩]
  rw [Query.entries, reply_bind, reply_mapM, herror]
  rfl

theorem reply_append_of_isWritable {form : EntryForm} {names : List String}
    (hw : g.snapshot.IsWritable E form names) (separator buffer : String) :
    g.reply (.append g.snapshot form separator names buffer) =
      .ok ⟨(g.snapshot.assignedEntries E form names).length,
        buffer ++ separator.intercalate (g.snapshot.assignedEntries E form names)⟩ := by
  rw [Query.append, reply_bind, reply_entries_of_isWritable h hE hw]
  rfl

theorem reply_append_of_not_isWritable {form : EntryForm} {names : List String}
    (hw : ¬ g.snapshot.IsWritable E form names) (separator buffer : String) :
    g.reply (.append g.snapshot form separator names buffer) = .error .excess := by
  rw [Query.append, reply_bind, reply_entries_of_not_isWritable h hE hw]
  rfl

end Assigned

/-! ## Counting, adding up and splitting -/

/-- **That entries are split back** from a text; without entries the text is empty. -/
structure SplitsBack (separator : Char) (entries : List String) (text : String) : Prop where
  parts : entries ≠ [] → (Text.split separator text.toList).map String.ofList = entries
  nothing : entries = [] → text = ""

theorem splitsBack_joined {separator : Char} {entries : List String}
    (h : ∀ entry ∈ entries, separator ∉ entry.toList) :
    SplitsBack separator entries ((String.singleton separator).intercalate entries) where
  parts hne := Text.split_joined hne h
  nothing := by
    rintro rfl
    rfl

/-- **What is written to a buffer**, given the assigned values. -/
structure Appends (g : Groups) (E : String → Int) : Prop where
  /-- The assigned values are the effective ones. -/
  value : ∀ test default, g.reply (.value test default) =
    .ok (if test ∈ g.snapshot.buckets.keys then E test else default)
  /-- The old content stays, the joined entries come after it, and they are counted. -/
  append : ∀ form names separator buffer, g.snapshot.IsWritable E form names →
    g.reply (.append g.snapshot form separator names buffer) =
      .ok ⟨(g.snapshot.assignedEntries E form names).length,
        buffer ++ separator.intercalate (g.snapshot.assignedEntries E form names)⟩
  /-- A value of too many digits is not written, and nothing else either. -/
  excess : ∀ form names separator buffer, ¬ g.snapshot.IsWritable E form names →
    g.reply (.append g.snapshot form separator names buffer) = .error .excess
  /-- Names after other names have their entries after those of the others, and counts add up. -/
  additive : ∀ form names others separator buffer buffer' a b,
    g.reply (.append g.snapshot form separator names buffer) = .ok a →
    g.reply (.append g.snapshot form separator others buffer') = .ok b →
      ∃ added, g.reply (.append g.snapshot form separator (names ++ others) buffer) = .ok added ∧
        added.count = a.count + b.count ∧
        g.snapshot.assignedEntries E form (names ++ others) =
          g.snapshot.assignedEntries E form names ++ g.snapshot.assignedEntries E form others
  /-- A separator that no entry holds gives back the entries of a buffer. -/
  split : ∀ form names separator buffer a,
    (∀ entry ∈ g.snapshot.assignedEntries E form names, separator ∉ entry.toList) →
    g.reply (.append g.snapshot form (String.singleton separator) names buffer) = .ok a →
      ∃ text, a.text = buffer ++ text ∧
        (0 < a.count → (Text.split separator text.toList).map String.ofList =
          g.snapshot.assignedEntries E form names) ∧
        (a.count = 0 → text = "")
  /-- The same for the entries of both forms, each form in some order. -/
  allEntries : (∀ test ∈ g.activeNames E, Text.isWithinDigits (E test) = true) →
    ∀ separator : Char, ∃ plain allocated text,
      plain.Perm ((g.activeNames E).map (plainEntry E)) ∧
      allocated.Perm ((g.activeNames E).filterMap (g.snapshot.allocatedEntry? E)) ∧
      g.reply (.allEntries g.snapshot (String.singleton separator)) = .ok text ∧
      ((∀ entry ∈ plain ++ allocated, separator ∉ entry.toList) →
        SplitsBack separator (plain ++ allocated) text)
  /-- The same for the logging string, each form in the order of the names. -/
  loggingString : (∀ test ∈ g.activeNames E, Text.isWithinDigits (E test) = true) →
    ∀ names : List String, names.Perm (g.activeNames E) → names.Pairwise (· ≤ ·) →
      ∃ text, g.reply (.loggingString g.snapshot) = .ok text ∧
        ((∀ entry ∈ names.map (plainEntry E) ++ names.filterMap (g.snapshot.allocatedEntry? E),
            ',' ∉ entry.toList) →
          SplitsBack ','
            (names.map (plainEntry E) ++ names.filterMap (g.snapshot.allocatedEntry? E)) text)

/-- An append with an answer has written all its entries. -/
theorem eq_of_reply_append (h : g.Resolves)
    (hE : ∀ test, g.valueOf test = if test ∈ g.snapshot.buckets.keys then some (E test) else none)
    {form : EntryForm} {separator buffer : String} {names : List String} {a : Appended}
    (ha : g.reply (.append g.snapshot form separator names buffer) = .ok a) :
    g.snapshot.IsWritable E form names ∧
      a = ⟨(g.snapshot.assignedEntries E form names).length,
        buffer ++ separator.intercalate (g.snapshot.assignedEntries E form names)⟩ := by
  by_cases hw : g.snapshot.IsWritable E form names
  · rw [reply_append_of_isWritable h hE hw] at ha
    exact ⟨hw, (Except.ok.inj ha).symm⟩
  · rw [reply_append_of_not_isWritable h hE hw] at ha
    cases ha

/-- **Entries are counted, added up and split back**: for every snapshot and every hook under which
every test of the snapshot has a value. The separator of the settings is a single character. -/
theorem appends_entries (g : Groups) (h : g.Resolves) :
    (∃ E, g.Appends E) ∧
      ∀ bindings files settings, Settings.load bindings files = .ok settings →
        ∃ separator, settings.separator = String.singleton separator := by
  refine ⟨?_, fun _ _ _ hload => Settings.exists_separator hload⟩
  obtain ⟨E, hE⟩ := exists_assignment h
  have hE' : ∀ test ∈ g.snapshot.buckets.keys, g.valueOf test = some (E test) := by
    intro test hm
    rw [hE, if_pos hm]
  refine ⟨E, ?_⟩
  constructor
  case value => exact reply_value_assigned h hE
  case append => exact fun form names separator buffer hw =>
    reply_append_of_isWritable h hE hw separator buffer
  case excess => exact fun form names separator buffer hw =>
    reply_append_of_not_isWritable h hE hw separator buffer
  case additive =>
    intro form names others separator buffer buffer' a b ha hb
    obtain ⟨hnames, rfl⟩ := eq_of_reply_append h hE ha
    obtain ⟨hothers, rfl⟩ := eq_of_reply_append h hE hb
    have hboth := (g.snapshot.isWritable_append_iff E form names others).2 ⟨hnames, hothers⟩
    have hentries := g.snapshot.assignedEntries_append E form names others
    refine ⟨_, reply_append_of_isWritable h hE hboth separator buffer, ?_, hentries⟩
    rw [hentries, List.length_append]
  case split =>
    intro form names separator buffer a hfree ha
    obtain ⟨-, rfl⟩ := eq_of_reply_append h hE ha
    have hback := splitsBack_joined hfree
    exact ⟨_, rfl, fun hpos => hback.parts (List.length_pos_iff.1 hpos),
      fun hzero => hback.nothing (List.length_eq_zero_iff.1 hzero)⟩
  case allEntries =>
    intro hdigits separator
    refine ⟨_, _, _, .refl _, .refl _, ?_, fun hfree => splitsBack_joined hfree⟩
    rw [reply_allEntries_assigned hE' h, if_pos (List.all_eq_true.2 hdigits)]
  case loggingString =>
    intro hdigits names hperm hsorted
    refine ⟨_, ?_, fun hfree => splitsBack_joined hfree⟩
    rw [reply_loggingString_assigned hE' h hperm hsorted, if_pos (List.all_eq_true.2 hdigits)]
    rfl

/-- A name that comes twice has two entries, one that is not in the snapshot has none, and an
inactive one has its negative value. -/
theorem appends_entries_lowered : lowered.Resolves ∧
    lowered.reply (.append lowered.snapshot .plain "," ["page", "away", "menu", "page"] "x") =
      .ok ⟨3, "xpage2,menu-1,page2"⟩ ∧
    ∃ settings, Settings.load [] [] = .ok settings ∧
      ∃ separator, settings.separator = String.singleton separator := by
  obtain ⟨⟨E, hE⟩, hsettings⟩ := appends_entries lowered resolves_lowered
  have hpage : E "page" = 2 :=
    Except.ok.inj ((hE.value "page" 7).symm.trans (by decide +kernel))
  have hmenu : E "menu" = -1 :=
    Except.ok.inj ((hE.value "menu" 7).symm.trans (by decide +kernel))
  have hentries : lowered.snapshot.assignedEntries E .plain ["page", "away", "menu", "page"] =
      ["page2", "menu-1", "page2"] := by
    have hnames : ["page", "away", "menu", "page"].filter
        (fun test => decide (test ∈ lowered.snapshot.buckets.keys)) = ["page", "menu", "page"] := by
      decide +kernel
    rw [Snapshot.assignedEntries_plain, hnames]
    simp only [List.map_cons, List.map_nil, plainEntry, hpage, hmenu]
    decide +kernel
  have hwritable : lowered.snapshot.IsWritable E .plain ["page", "away", "menu", "page"] := by
    intro test _ hm _
    have hkeys : lowered.snapshot.buckets.keys = ["page", "menu"] := by decide +kernel
    rw [hkeys, List.mem_cons, List.mem_singleton] at hm
    rcases hm with rfl | rfl
    · rw [hpage]
      decide +kernel
    · rw [hmenu]
      decide +kernel
  have hload : Settings.load [] [] = .ok ⟨.dev, .info, ","⟩ := by decide +kernel
  refine ⟨resolves_lowered, ?_, ⟨_, hload, hsettings [] [] _ hload⟩⟩
  rw [hE.append .plain _ "," "x" hwritable, hentries]
  decide +kernel

/-- **Not every entry is written**: a hook can add one digit too many to a value. -/
theorem not_appended :
    (shifted (Nat.pow 10 Text.digitLimit - 1) 1).Resolves ∧
    (shifted (Nat.pow 10 Text.digitLimit - 1) 1).reply (.value "t" 0) =
      .ok (Nat.pow 10 Text.digitLimit) ∧
    ∀ a, (shifted (Nat.pow 10 Text.digitLimit - 1) 1).reply
      (.append (shifted (Nat.pow 10 Text.digitLimit - 1) 1).snapshot .plain "," ["t"] "") ≠ .ok a := by
  have hresolves := resolves_shifted (Nat.pow 10 Text.digitLimit - 1) 1
  have hvalue := valueOf_shifted (Nat.pow 10 Text.digitLimit - 1) 1
  rw [Int.sub_add_cancel] at hvalue
  refine ⟨hresolves, ?_, ?_⟩
  · rw [reply_value hresolves, hvalue, Option.getD_some]
  · intro a ha
    obtain ⟨E, hE⟩ := exists_assignment hresolves
    obtain ⟨hwritable, -⟩ := eq_of_reply_append hresolves hE ha
    have hkey : "t" ∈ (shifted (Nat.pow 10 Text.digitLimit - 1) 1).snapshot.buckets.keys :=
      List.mem_singleton_self _
    have hassigned := hE "t"
    rw [if_pos hkey, hvalue] at hassigned
    have hdigits := hwritable "t" (List.mem_singleton_self _) hkey rfl
    rw [← Option.some.inj hassigned] at hdigits
    exact absurd hdigits (by decide +kernel)

end Groups

end ExperimentGroups
