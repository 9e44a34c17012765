/-!
# Dictionaries in insertion order

A dictionary holds its entries in the order in which their names first came, and no name twice.
Storing under a name that is already there keeps its place.

## Main definitions

* `Dict α`: the entries, with the proof that no name repeats
* `Dict.get?`, `Dict.keys`: the views
* `Dict.insert`, `Dict.ofList`, `Dict.map`: the constructions
* `Dict.agree`: comparison without regard to order

## Main results

* `Dict.keys_insert`: a new name goes to the end, a known one keeps its place
* `Dict.get?_insert`: the stored value is read back, the others stay
* `Dict.entries_ofList`: entries without a repeated name are kept as they are
* `Dict.mem_of_mem_ofList`: no entry comes from elsewhere
* `Dict.get?_eq_none_iff`, `Dict.mem_entries_iff`: looking up reads the entries
* `Dict.keys_map`, `Dict.get?_map`: values are mapped in place
-/

namespace ExperimentGroups

/-- **A dictionary**: its entries in insertion order, no name twice. -/
structure Dict (α : Type) where
  entries : List (String × α)
  distinct : (entries.map Prod.fst).Nodup
  deriving DecidableEq

namespace Dict

variable {α β : Type}

/-- The dictionary without entries. -/
def empty : Dict α := ⟨[], List.nodup_nil⟩

instance : Inhabited (Dict α) := ⟨empty⟩

/-- The names, in insertion order. -/
def keys (d : Dict α) : List String := d.entries.map Prod.fst

/-- The value of the first entry with the given name. -/
def findEntry (name : String) : List (String × α) → Option α
  | [] => none
  | (k, v) :: rest => if k = name then some v else findEntry name rest

/-- The value of the last entry with the given name. -/
def findLast (name : String) (es : List (String × α)) : Option α := findEntry name es.reverse

/-- The value stored under a name. -/
def get? (d : Dict α) (name : String) : Option α := findEntry name d.entries

/-- Whether there are no entries. -/
def isEmpty (d : Dict α) : Bool := d.entries.isEmpty

/-- How many entries there are. -/
def size (d : Dict α) : Nat := d.entries.length

/-! ## Storing -/

/-- Stores in place when the name is there, at the end when it is not. -/
def storeEntry (name : String) (value : α) : List (String × α) → List (String × α)
  | [] => [(name, value)]
  | (k, v) :: rest =>
    if k = name then (name, value) :: rest else (k, v) :: storeEntry name value rest

theorem map_fst_storeEntry (name : String) (value : α) (es : List (String × α)) :
    (storeEntry name value es).map Prod.fst =
      if name ∈ es.map Prod.fst then es.map Prod.fst else es.map Prod.fst ++ [name] := by
  induction es with
  | nil => simp [storeEntry]
  | cons e es ih =>
    obtain ⟨k, v⟩ := e
    by_cases h : k = name
    · simp [storeEntry, h]
    · have h' : name ≠ k := fun e => h e.symm
      simp only [storeEntry, h, if_false, List.map_cons, ih, List.mem_cons, h', false_or]
      split <;> simp

theorem nodup_storeEntry (name : String) (value : α) {es : List (String × α)}
    (h : (es.map Prod.fst).Nodup) : ((storeEntry name value es).map Prod.fst).Nodup := by
  rw [map_fst_storeEntry]
  split
  · exact h
  · next hn => exact List.nodup_append.2 ⟨h, by simp, by simpa using fun a v hv e => hn (by
      subst e; exact List.mem_map.2 ⟨_, hv, rfl⟩)⟩

/-- Stores a value under a name; a known name keeps its place. -/
def insert (d : Dict α) (name : String) (value : α) : Dict α :=
  ⟨storeEntry name value d.entries, nodup_storeEntry name value d.distinct⟩

/-- The dictionary of a list of entries: of a repeated name the last value counts, at the place of
the first. -/
def ofList (es : List (String × α)) : Dict α :=
  es.foldl (fun d e => d.insert e.1 e.2) empty

theorem keys_insert (d : Dict α) (name : String) (value : α) :
    (d.insert name value).keys = if name ∈ d.keys then d.keys else d.keys ++ [name] :=
  map_fst_storeEntry name value d.entries

theorem findEntry_storeEntry (name : String) (value : α) (es : List (String × α)) (k : String) :
    findEntry k (storeEntry name value es) = if name = k then some value else findEntry k es := by
  induction es with
  | nil => by_cases h : name = k <;> simp [storeEntry, findEntry, h]
  | cons e es ih =>
    obtain ⟨k', v⟩ := e
    by_cases h : k' = name
    · by_cases hk : name = k <;> simp [storeEntry, findEntry, h, hk]
    · by_cases hk : k' = k
      · subst hk
        have : name ≠ k' := fun e => h e.symm
        simp [storeEntry, findEntry, h, this]
      · simp [storeEntry, findEntry, h, hk, ih]

theorem get?_insert (d : Dict α) (name : String) (value : α) (k : String) :
    (d.insert name value).get? k = if name = k then some value else d.get? k :=
  findEntry_storeEntry name value d.entries k

theorem storeEntry_of_not_mem (name : String) (value : α) {es : List (String × α)}
    (h : name ∉ es.map Prod.fst) : storeEntry name value es = es ++ [(name, value)] := by
  induction es with
  | nil => rfl
  | cons e es ih =>
    rw [List.map_cons, List.mem_cons, not_or] at h
    rw [storeEntry, if_neg (fun e => h.1 e.symm), ih h.2, List.cons_append]

/-- The dictionary of entries without a repeated name has just these entries. -/
theorem entries_ofList {es : List (String × α)} (h : (es.map Prod.fst).Nodup) :
    (ofList es).entries = es := by
  suffices H : ∀ (d : Dict α) (es : List (String × α)),
      ((d.entries ++ es).map Prod.fst).Nodup →
        (es.foldl (fun d e => d.insert e.1 e.2) d).entries = d.entries ++ es by
    simpa [ofList, empty] using H empty es h
  intro d es
  induction es generalizing d with
  | nil => simp
  | cons e es ih =>
    intro hn
    have hsplit : d.entries ++ e :: es = (d.entries ++ [(e.1, e.2)]) ++ es := by simp
    have hmem : e.1 ∉ d.entries.map Prod.fst := by
      rw [List.map_append, List.map_cons, List.nodup_append] at hn
      exact fun hm => hn.2.2 e.1 hm e.1 List.mem_cons_self rfl
    have hins : (d.insert e.1 e.2).entries = d.entries ++ [(e.1, e.2)] :=
      storeEntry_of_not_mem e.1 e.2 hmem
    rw [List.foldl_cons, ih (d.insert e.1 e.2) (by rwa [hins, ← hsplit]), hins, ← hsplit]

theorem mem_storeEntry {name : String} {value : α} {es : List (String × α)} {e : String × α}
    (h : e ∈ storeEntry name value es) : e = (name, value) ∨ e ∈ es := by
  induction es with
  | nil => exact .inl (List.mem_singleton.1 h)
  | cons e' es ih =>
    rw [storeEntry] at h
    split at h
    · rcases List.mem_cons.1 h with rfl | h
      · exact .inl rfl
      · exact .inr (List.mem_cons_of_mem _ h)
    · rcases List.mem_cons.1 h with rfl | h
      · exact .inr List.mem_cons_self
      · exact (ih h).imp_right (List.mem_cons_of_mem _)

/-- The entries of a dictionary are among those it was made of. -/
theorem mem_of_mem_ofList {es : List (String × α)} {e : String × α}
    (h : e ∈ (ofList es).entries) : e ∈ es := by
  suffices H : ∀ (d : Dict α), e ∈ (es.foldl (fun d e => d.insert e.1 e.2) d).entries →
      e ∈ d.entries ∨ e ∈ es by
    simpa [empty] using H empty h
  clear h
  induction es with
  | nil => exact fun d h => .inl h
  | cons e' es ih =>
    intro d h
    rcases ih _ h with h | h
    · rcases mem_storeEntry h with rfl | h
      · exact .inr List.mem_cons_self
      · exact .inl h
    · exact .inr (List.mem_cons_of_mem _ h)

/-! ## Looking up -/

theorem findEntry_eq_none_iff (name : String) (es : List (String × α)) :
    findEntry name es = none ↔ name ∉ es.map Prod.fst := by
  induction es with
  | nil => simp [findEntry]
  | cons e es ih =>
    by_cases h : e.1 = name
    · simp [findEntry, h]
    · have h' : name ≠ e.1 := fun e => h e.symm
      simp [findEntry, h, h', ih]

/-- A name has a value exactly if it is one of the names. -/
theorem get?_eq_none_iff (d : Dict α) (name : String) : d.get? name = none ↔ name ∉ d.keys :=
  findEntry_eq_none_iff name d.entries

theorem mem_keys_iff (d : Dict α) (name : String) :
    name ∈ d.keys ↔ ∃ value, d.get? name = some value := by
  rw [← Option.isSome_iff_exists, ← Option.ne_none_iff_isSome, ne_eq, get?_eq_none_iff,
    Decidable.not_not]

theorem mem_keys_of_get? {d : Dict α} {name : String} {value : α}
    (h : d.get? name = some value) : name ∈ d.keys :=
  (d.mem_keys_iff name).2 ⟨value, h⟩

theorem findEntry_eq_some_iff (name : String) (value : α) {es : List (String × α)}
    (hn : (es.map Prod.fst).Nodup) :
    findEntry name es = some value ↔ (name, value) ∈ es := by
  induction es with
  | nil => simp [findEntry]
  | cons e es ih =>
    obtain ⟨k, v⟩ := e
    rw [List.map_cons, List.nodup_cons] at hn
    by_cases h : k = name
    · subst h
      have hk : (k, value) ∉ es := fun hm => hn.1 (List.mem_map.2 ⟨_, hm, rfl⟩)
      simp [findEntry, hk, eq_comm]
    · have h' : name ≠ k := fun e => h e.symm
      simp [findEntry, h, h', ih hn.2]

/-- The value of a name is the one of its entry. -/
theorem mem_entries_iff (d : Dict α) (name : String) (value : α) :
    (name, value) ∈ d.entries ↔ d.get? name = some value :=
  (findEntry_eq_some_iff name value d.distinct).symm

theorem ext_entries {d e : Dict α} (h : d.entries = e.entries) : d = e := by
  cases d
  cases e
  cases h
  rfl

/-! ## Mapping -/

/-- Maps every value, with its name at hand; names and places stay. -/
def map (f : String → α → β) (d : Dict α) : Dict β :=
  ⟨d.entries.map fun e => (e.1, f e.1 e.2), by
    have h := d.distinct
    rwa [List.map_map,
      show (Prod.fst ∘ fun e : String × α => (e.1, f e.1 e.2)) = Prod.fst from rfl]⟩

@[simp] theorem keys_map (f : String → α → β) (d : Dict α) : (d.map f).keys = d.keys := by
  simp [keys, map, Function.comp_def]

theorem findEntry_map (f : String → α → β) (es : List (String × α)) (name : String) :
    findEntry name (es.map fun e => (e.1, f e.1 e.2)) = (findEntry name es).map (f name) := by
  induction es with
  | nil => rfl
  | cons e es ih => by_cases h : e.1 = name <;> simp [findEntry, h, ih]

theorem get?_map (f : String → α → β) (d : Dict α) (name : String) :
    (d.map f).get? name = (d.get? name).map (f name) :=
  findEntry_map f d.entries name

/-! ## Comparing -/

/-- Whether two dictionaries have the same names, in any order, and values that agree under each. -/
def agree (same : α → α → Bool) (d e : Dict α) : Bool :=
  d.size == e.size && d.entries.all fun entry =>
    match e.get? entry.1 with
    | some value => same entry.2 value
    | none => false

end Dict

end ExperimentGroups
