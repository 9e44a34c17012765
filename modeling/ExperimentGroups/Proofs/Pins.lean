import ExperimentGroups.Proofs.Items
import Mathlib.Data.List.Perm.Basic

/-!
# Lists of items

An item is divided at its first equals sign. In front of it stands the name of a test and behind it
an integer, both without the blanks around them. A list of items is read if every item has a name
and an integer; then every name is kept where it first comes, with the integer of its last item.
Otherwise the first item that is wrong decides on the message, and nothing behind it matters.

So pins are read back from the list of their items, in the same order, whatever blanks there are
around the names and the values. In another order they are looked up as before.

## Main definitions

* `Override.Divides`, `Override.Spells`: the parts of an item, and the pin that it spells
* `Override.Refuses`: the message about an item that spells no pin
* `Override.Renders`: the items of a pin, with blanks around its parts
* `Override.ReadsItems`: what is read of a list of items

## Main results

* `Dict.keys_ofList`, `Dict.get?_ofList_iff`: the first place and the last value of a name
* `Override.readItem_eq_ok_iff`, `Override.readItem_eq_error_iff`: what is read of an item
* `Override.exists_readItems_iff`, `Override.exists_readItems_eq_error_iff`: which lists are read, and
  how the others are refused
* `Override.exists_readItems`: pins are read back in any order
* `Override.reads_items`: what is read of a list of items
-/

namespace ExperimentGroups

/-! ## The first place and the last value -/

namespace Dict

variable {α : Type}

theorem ofList_concat (es : List (String × α)) (e : String × α) :
    ofList (es ++ [e]) = (ofList es).insert e.1 e.2 := by
  simp [ofList]

/-- **A name is kept where it first comes.** -/
theorem keys_ofList (es : List (String × α)) :
    (ofList es).keys = (es.map Prod.fst).eraseDups := by
  -- The last entry is stored last, so it is taken off first.
  induction es using List.reverseRecOn with
  | nil => rfl
  | append_singleton es e ih =>
    rw [ofList_concat, keys_insert, ih, List.map_append, List.eraseDups_append]
    by_cases h : e.1 ∈ es.map Prod.fst
    · simp [List.mem_eraseDups, List.removeAll, h]
    · simp [List.mem_eraseDups, List.removeAll, List.eraseDups_cons, h]

/-- **The last value of a name counts.** -/
theorem get?_ofList_iff (es : List (String × α)) (name : String) (a : α) :
    (ofList es).get? name = some a ↔
      ∃ before after, es = before ++ (name, a) :: after ∧ name ∉ after.map Prod.fst := by
  -- The last entry either has the name and counts, or has another one and does not matter.
  induction es using List.reverseRecOn with
  | nil => simp [ofList, empty, get?, findEntry]
  | append_singleton es e ih =>
    obtain ⟨k, b⟩ := e
    rw [ofList_concat, get?_insert]
    by_cases hk : k = name
    · subst hk
      rw [if_pos rfl]
      constructor
      · rintro ⟨⟩
        exact ⟨es, [], rfl, by simp⟩
      · rintro ⟨before, after, hes, hafter⟩
        rcases List.eq_nil_or_concat after with rfl | ⟨rest, last, rfl⟩
        · have hlast := (List.append_inj' hes rfl).2
          simp_all
        · rw [List.concat_eq_append, ← List.cons_append, ← List.append_assoc] at hes
          obtain rfl : (k, b) = last := by simpa using (List.append_inj' hes rfl).2
          simp at hafter
    · rw [if_neg hk, ih]
      constructor
      · rintro ⟨before, after, rfl, hafter⟩
        exact ⟨before, after ++ [(k, b)], by simp, by simpa [Ne.symm hk] using hafter⟩
      · rintro ⟨before, after, hes, hafter⟩
        rcases List.eq_nil_or_concat after with rfl | ⟨rest, last, rfl⟩
        · obtain rfl : k = name := by simpa using congrArg (·.map Prod.fst) (List.append_inj' hes rfl).2
          exact absurd rfl hk
        · rw [List.concat_eq_append, ← List.cons_append, ← List.append_assoc] at hes
          refine ⟨before, rest, (List.append_inj' hes rfl).1, fun hmem => hafter ?_⟩
          simp only [List.concat_eq_append, List.map_append]
          exact List.mem_append_left _ hmem

end Dict

/-! ## Blanks -/

namespace Text

/-- A text without the blanks around it. -/
abbrev stripped (cs : List Char) : List Char := trim isBlankOrSeparator cs

theorem not_of_head?_dropWhile {p : Char → Bool} {cs : List Char} {c : Char}
    (h : (cs.dropWhile p).head? = some c) : p c = false := by
  have hfirst := List.head?_dropWhile_not p cs
  rw [h] at hfirst
  exact hfirst

/-- What is left of a text has nothing more to be cut. -/
theorem trim_trim (p : Char → Bool) (cs : List Char) : trim p (trim p cs) = trim p cs := by
  refine trim_eq_self (fun c hc => ?_) fun c hc => ?_
  · -- The end is cut from a text that begins outside the class.
    obtain ⟨rest, hrest⟩ : trim p cs <+: cs.dropWhile p := by
      rw [trim, trimEnd, ← List.reverse_suffix, List.reverse_reverse]
      exact List.dropWhile_suffix p
    have hhead : (cs.dropWhile p).head? = some c := by
      rw [← hrest, List.head?_append, hc, Option.some_or]
    exact not_of_head?_dropWhile hhead
  · rw [trim, trimEnd, List.getLast?_reverse] at hc
    exact not_of_head?_dropWhile hc

theorem integer?_stripped (cs : List Char) : integer? (stripped cs) = integer? cs := by
  rw [integer?, integer?, trim_trim]

end Text

namespace Override

open Text (stripped)

/-! ## Items -/

/-- **The parts of an item**: what stands in front of its first equals sign, and what follows. -/
structure Divides (item : String) (name value : List Char) : Prop where
  chars : item.toList = name ++ '=' :: value
  first : '=' ∉ name

/-- **The pin that an item spells**: it has a name that is not blank, and an integer. -/
def Spells (item : String) (pin : String × Int) : Prop :=
  ∃ name value, Divides item name value ∧ stripped name = pin.1.toList ∧ pin.1 ≠ "" ∧
    Text.integer? (stripped value) = some pin.2

/-- **The message about an item that spells no pin.** Without an equals sign or a name the whole
item is quoted, and otherwise the name. -/
inductive Refuses (item : String) : String → Prop
  | noEquals (h : '=' ∉ item.toList) :
    Refuses item ("expected TEST=VALUE, got " ++ String.ofList (Text.quote item.toList))
  | noName {name value : List Char} (h : Divides item name value) (hname : stripped name = []) :
    Refuses item ("expected TEST=VALUE, got " ++ String.ofList (Text.quote item.toList))
  | notInteger {name value : List Char} (h : Divides item name value) (hname : stripped name ≠ [])
    (hvalue : Text.integer? (stripped value) = none) :
    Refuses item ("bucket value for " ++ String.ofList (Text.quote (stripped name)) ++
      " must be an integer")

theorem exists_divides {item : String} (h : '=' ∈ item.toList) :
    ∃ name value, Divides item name value := by
  obtain ⟨name, value, hchars, hfirst⟩ := List.eq_append_cons_of_mem h
  exact ⟨name, value, hchars, hfirst⟩

theorem readItem_of_not_mem {item : String} (h : '=' ∉ item.toList) :
    readItem item = .error (.malformed item) := by
  have hall : ∀ c ∈ item.toList, decide (c ≠ '=') = true := fun c hc =>
    decide_eq_true fun heq => h (heq ▸ hc)
  have hdrop : item.toList.dropWhile (· ≠ '=') = [] := by
    simpa using Text.dropWhile_append_of_all hall []
  simp only [readItem, hdrop]

/-- An item is read by its parts. -/
theorem Divides.readItem_eq {item : String} {name value : List Char} (h : Divides item name value) :
    readItem item =
      if stripped name = [] then .error (.malformed item)
      else match Text.integer? (stripped value) with
        | none => .error (.notInteger (String.ofList (stripped name)))
        | some n => .ok (String.ofList (stripped name), n) := by
  have hall : ∀ c ∈ name, decide (c ≠ '=') = true := fun c hc =>
    decide_eq_true fun heq => h.first (heq ▸ hc)
  obtain ⟨htake, hdrop⟩ : (name ++ '=' :: value).takeWhile (· ≠ '=') = name ∧
      (name ++ '=' :: value).dropWhile (· ≠ '=') = '=' :: value := span_append hall (by simp)
  rw [← h.chars] at htake hdrop
  rw [Text.integer?_stripped]
  cases hname : stripped name with
  | nil => simp only [readItem, htake, hdrop, hname, if_true]
  | cons c rest =>
    cases hvalue : Text.integer? value <;>
      simp only [readItem, htake, hdrop, hname, hvalue, reduceCtorEq, if_false]

/-- **An item is read exactly if it spells a pin.** -/
theorem readItem_eq_ok_iff {item : String} {pin : String × Int} :
    readItem item = .ok pin ↔ Spells item pin := by
  constructor
  · intro h
    -- Only an item with parts, a name and an integer is left.
    by_cases hmem : '=' ∈ item.toList
    · obtain ⟨name, value, hdivides⟩ := exists_divides hmem
      rw [hdivides.readItem_eq] at h
      split at h
      · cases h
      · next hname =>
        cases hn : Text.integer? (stripped value) with
        | none =>
          rw [hn] at h
          cases h
        | some n =>
          rw [hn] at h
          cases h
          exact ⟨name, value, hdivides, by simp, by simpa using hname, hn⟩
    · rw [readItem_of_not_mem hmem] at h
      cases h
  · rintro ⟨name, value, hdivides, hname, hne, hvalue⟩
    rw [hdivides.readItem_eq, hname, hvalue, if_neg (by simpa using hne), String.ofList_toList]

/-- **An item that spells no pin is refused**, with its message. -/
theorem readItem_eq_error_iff {item message : String} :
    (∃ e, readItem item = .error e ∧ e.message = message) ↔ Refuses item message := by
  constructor
  · rintro ⟨e, h, rfl⟩
    by_cases hmem : '=' ∈ item.toList
    · obtain ⟨name, value, hdivides⟩ := exists_divides hmem
      rw [hdivides.readItem_eq] at h
      split at h
      · next hname =>
        cases h
        rw [ItemError.message_malformed]
        exact .noName hdivides hname
      · next hname =>
        cases hn : Text.integer? (stripped value) with
        | none =>
          rw [hn] at h
          cases h
          rw [ItemError.message_notInteger, String.toList_ofList]
          exact .notInteger hdivides hname hn
        | some n =>
          rw [hn] at h
          cases h
    · rw [readItem_of_not_mem hmem] at h
      cases h
      rw [ItemError.message_malformed]
      exact .noEquals hmem
  · intro h
    cases h with
    | noEquals h => exact ⟨.malformed item, readItem_of_not_mem h, ItemError.message_malformed item⟩
    | noName h hname =>
      exact ⟨.malformed item, by rw [h.readItem_eq, if_pos hname],
        ItemError.message_malformed item⟩
    | @notInteger name value h hname hvalue =>
      refine ⟨.notInteger (String.ofList (stripped name)), ?_, ?_⟩
      · rw [h.readItem_eq, if_neg hname, hvalue]
      · rw [ItemError.message_notInteger, String.toList_ofList]

/-! ## Blanks around the parts -/

/-- **The items of a pin**: its name and its value with an equals sign between them, and blanks
around both. -/
def Renders (pin : String × Int) (item : String) : Prop :=
  ∃ front left right back, (∀ c ∈ front ++ left ++ right ++ back, Text.isBlankOrSeparator c = true) ∧
    item.toList = front ++ pin.1.toList ++ left ++ '=' ::
      (right ++ Text.integerChars pin.2 ++ back)

/-- **An item of a pin spells it.** -/
theorem Renders.spells {pin : String × Int} {item : String} (h : Renders pin item)
    (hname : IsItemName pin.1) (hvalue : Text.isWithinDigits pin.2 = true) : Spells item pin := by
  obtain ⟨front, left, right, back, hblank, hitem⟩ := h
  simp only [List.mem_append] at hblank
  have hfront : ∀ c ∈ front, Text.isBlankOrSeparator c = true :=
    fun c hc => hblank c (.inl (.inl (.inl hc)))
  have hleft : ∀ c ∈ left, Text.isBlankOrSeparator c = true :=
    fun c hc => hblank c (.inl (.inl (.inr hc)))
  have hright : ∀ c ∈ right, Text.isBlankOrSeparator c = true :=
    fun c hc => hblank c (.inl (.inr hc))
  have hback : ∀ c ∈ back, Text.isBlankOrSeparator c = true := fun c hc => hblank c (.inr hc)
  -- The first equals sign is the one between the parts, since it is no blank.
  have hsign : Text.isBlankOrSeparator '=' = false := by decide
  have hfirst : '=' ∉ front ++ pin.1.toList ++ left := by
    rw [List.mem_append, List.mem_append]
    rintro ((hmem | hmem) | hmem)
    · exact absurd (hfront _ hmem) (by simp [hsign])
    · exact hname.not_mem hmem
    · exact absurd (hleft _ hmem) (by simp [hsign])
  have hdigits : ∀ c ∈ Text.integerChars pin.2, Text.isBlankOrSeparator c = false :=
    fun c hc => Text.isBlankOrSeparator_of_mem_integerChars hc
  refine ⟨_, _, ⟨hitem, hfirst⟩, Text.trim_append hfront hleft hname.first hname.last,
    hname.ne_empty, ?_⟩
  rw [stripped, Text.trim_append hright hback (fun c hc => hdigits c (List.mem_of_head? hc))
    fun c hc => hdigits c (List.mem_of_getLast? hc)]
  exact Text.integer?_integerChars hvalue

theorem renders_item (pin : String × Int) : Renders pin (item pin) :=
  ⟨[], [], [], [], by simp, by simp [item, Text.integerText]⟩

/-! ## Lists of items -/

theorem readItems_eq_ok_iff {items : List String} {pins : Dict Int} :
    readItems items = .ok pins ↔
      ∃ listed, List.Forall₂ Spells items listed ∧ Dict.ofList listed = pins := by
  have hspells : ∀ listed, items.mapM readItem = .ok listed ↔ List.Forall₂ Spells items listed := by
    intro listed
    simp only [mapM_eq_ok_iff, readItem_eq_ok_iff]
  simp only [readItems, ← hspells]
  cases items.mapM readItem <;> simp [Except.map]

theorem readItems_eq_error_iff {items : List String} {e : ItemError} :
    readItems items = .error e ↔ ∃ before item after, items = before ++ item :: after ∧
      (∀ other ∈ before, ∃ pin, Spells other pin) ∧ readItem item = .error e := by
  simp only [← readItem_eq_ok_iff]
  rw [← mapM_eq_error_iff, readItems]
  cases items.mapM readItem <;> simp [Except.map]

/-- **A list of items is read** if all of them spell pins. -/
theorem exists_readItems_iff {items : List String} :
    (∃ pins, readItems items = .ok pins) ↔ ∀ item ∈ items, ∃ pin, Spells item pin := by
  rw [← exists_forall₂_iff]
  simp only [readItems_eq_ok_iff]
  exact ⟨fun ⟨_, listed, hlisted, _⟩ => ⟨listed, hlisted⟩,
    fun ⟨listed, hlisted⟩ => ⟨_, listed, hlisted, rfl⟩⟩

/-- **A list of items is refused** with the message about the first one that spells no pin. -/
theorem exists_readItems_eq_error_iff {items : List String} {message : String} :
    (∃ e, readItems items = .error e ∧ e.message = message) ↔
      ∃ before item after, items = before ++ item :: after ∧
        (∀ other ∈ before, ∃ pin, Spells other pin) ∧ Refuses item message := by
  simp only [readItems_eq_error_iff, ← readItem_eq_error_iff]
  constructor
  · rintro ⟨e, ⟨before, item, after, hitems, hbefore, hitem⟩, hmessage⟩
    exact ⟨before, item, after, hitems, hbefore, e, hitem, hmessage⟩
  · rintro ⟨before, item, after, hitems, hbefore, e, hitem, hmessage⟩
    exact ⟨e, ⟨before, item, after, hitems, hbefore, hitem⟩, hmessage⟩

/-- Pins are read back from a list of their items. -/
theorem readItems_of_renders {listed : List (String × Int)} {items : List String}
    (hall : ∀ pin ∈ listed, IsItemName pin.1 ∧ Text.isWithinDigits pin.2 = true)
    (hitems : List.Forall₂ Renders listed items) : readItems items = .ok (.ofList listed) := by
  have hspells : List.Forall₂ Spells items listed :=
    (List.forall₂_and_left _ _ |>.2 ⟨hall, hitems⟩).flip.imp
      fun item pin hpin => hpin.2.spells hpin.1.1 hpin.1.2
  exact readItems_eq_ok_iff.2 ⟨listed, hspells, rfl⟩

/-- **Pins are read back** from their items in any order, and are looked up as before. -/
theorem exists_readItems {pins : Dict Int} {items : List String}
    (hnames : ∀ name ∈ pins.keys, IsItemName name)
    (hvalues : ∀ pin ∈ pins.entries, Text.isWithinDigits pin.2 = true)
    (hitems : items.Perm (pins.entries.map item)) :
    ∃ read, readItems items = .ok read ∧ ∀ name, read.get? name = pins.get? name := by
  -- The items are those of the pins in another order.
  obtain ⟨ordered, hordered, rfl⟩ : ∃ ordered : List (String × Int),
      ordered.Perm pins.entries ∧ ordered.map item = items := by
    obtain ⟨ordered, rfl, hordered⟩ :=
      (congrFun₂ (List.eq_map_comp_perm item) items pins.entries).mpr hitems
    exact ⟨ordered, hordered, rfl⟩
  have hread : readItems (ordered.map item) = .ok (.ofList ordered) := by
    refine readItems_of_renders (fun pin hpin => ?_)
      (List.forall₂_map_right_iff.2 (List.forall₂_same.2 fun pin _ => renders_item pin))
    have hpin := hordered.mem_iff.1 hpin
    exact ⟨hnames _ (List.mem_map_of_mem hpin), hvalues pin hpin⟩
  have hentries : (Dict.ofList ordered).entries = ordered :=
    Dict.entries_ofList ((hordered.map Prod.fst).nodup_iff.2 pins.distinct)
  refine ⟨.ofList ordered, hread, fun name => Option.ext fun v => ?_⟩
  rw [← Dict.mem_entries_iff, ← Dict.mem_entries_iff, hentries, hordered.mem_iff]

/-- **What is read of a list of items.** -/
structure ReadsItems (items : List String) : Prop where
  accepted : (∃ pins, readItems items = .ok pins) ↔ ∀ item ∈ items, ∃ pin, Spells item pin
  /-- Every name is kept where it first comes, with the integer of its last item. -/
  pins : ∀ pins, readItems items = .ok pins → ∃ listed, List.Forall₂ Spells items listed ∧
    pins.keys = (listed.map Prod.fst).eraseDups ∧
    ∀ name n, pins.get? name = some n ↔
      ∃ before after, listed = before ++ (name, n) :: after ∧ name ∉ after.map Prod.fst
  /-- The message is about the first item that spells no pin, whatever follows it. -/
  refused : ∀ message, (∃ e, readItems items = .error e ∧ e.message = message) ↔
    ∃ before item after, items = before ++ item :: after ∧
      (∀ other ∈ before, ∃ pin, Spells other pin) ∧ Refuses item message
  /-- Pins are read back from their items, in the same order. -/
  rendered : ∀ pins : Dict Int, (∀ name ∈ pins.keys, IsItemName name) →
    (∀ pin ∈ pins.entries, Text.isWithinDigits pin.2 = true) →
    List.Forall₂ Renders pins.entries items → readItems items = .ok pins

/-- **What is read of a list of items**: the pins that all of them spell, each name where it first
comes and with its last integer; or the message about the first one that spells none. Pins are read
back from their items, with any blanks around names and values. -/
theorem reads_items (items : List String) : ReadsItems items := by
  constructor
  case accepted => exact exists_readItems_iff
  case pins =>
    intro pins hpins
    obtain ⟨listed, hlisted, rfl⟩ := readItems_eq_ok_iff.1 hpins
    exact ⟨listed, hlisted, Dict.keys_ofList listed, Dict.get?_ofList_iff listed⟩
  case refused => exact fun _ => exists_readItems_eq_error_iff
  case rendered =>
    intro pins hnames hvalues hitems
    have hread := readItems_of_renders
      (fun pin hpin => ⟨hnames _ (List.mem_map_of_mem hpin), hvalues pin hpin⟩) hitems
    rw [hread, Dict.ext_entries (Dict.entries_ofList pins.distinct)]

/-- Two pins with blanks around their parts are read back. -/
theorem reads_items_padded :
    List.Forall₂ Renders [("b", 1), ("a b", -20)] [" b=1", "a b\t= -20\n"] ∧
      readItems [" b=1", "a b\t= -20\n"] = .ok (.ofList [("b", 1), ("a b", -20)]) := by
  have hrenders : List.Forall₂ Renders [("b", 1), ("a b", -20)] [" b=1", "a b\t= -20\n"] :=
    .cons ⟨[' '], [], [], [], List.all_eq_true.1 rfl, rfl⟩
      (.cons ⟨[], ['\t'], [' '], ['\n'], List.all_eq_true.1 rfl, rfl⟩ .nil)
  exact ⟨hrenders, (reads_items _).rendered (.ofList [("b", 1), ("a b", -20)]) (by decide)
    (by decide +kernel) hrenders⟩

example : readItems ["b=1", "a=2", "b = 3"] = .ok (.ofList [("b", 3), ("a", 2)]) := by
  decide +kernel

end Override

end ExperimentGroups
