import ExperimentGroups.Dict
import ExperimentGroups.Double.Layout

/-!
# JSON values

A JSON value keeps integers of any size and doubles apart, and the members of an object in their
order.

## Main definitions

* `Json`: the values
* `Json.same`, `Json.sameValue`: equality to the last detail, and equality of what is meant
  (numbers by value, booleans as the numbers zero and one, objects without regard to order)
* `Json.levels`: how deep a value nests
* `Json.settled`: the value in which no object repeats a name
* `Json.isFinite`, `Json.dropNonFinite`: values without NaN and infinities

## Main results

* `Json.same_iff`: `same` decides equality
* `Json.isFinite_dropNonFinite`: what is left is finite
-/

namespace ExperimentGroups

/-- **A JSON value.** -/
inductive Json where
  | null
  | bool (b : Bool)
  | int (n : Int)
  | double (x : Double)
  | text (s : String)
  | array (items : List Json)
  | object (members : List (String × Json))

namespace Json

instance : Inhabited Json := ⟨.null⟩

/-! ## Equality -/

mutual

/-- Whether two values are equal to the last detail. -/
def same : Json → Json → Bool
  | .null, .null => true
  | .bool a, .bool b => a == b
  | .int a, .int b => decide (a = b)
  | .double a, .double b => decide (a = b)
  | .text a, .text b => decide (a = b)
  | .array xs, .array ys => sameItems xs ys
  | .object ms, .object ns => sameMembers ms ns
  | _, _ => false

/-- `same`, item by item. -/
def sameItems : List Json → List Json → Bool
  | [], [] => true
  | x :: xs, y :: ys => same x y && sameItems xs ys
  | _, _ => false

/-- `same`, member by member. -/
def sameMembers : List (String × Json) → List (String × Json) → Bool
  | [], [] => true
  | (k, x) :: ms, (l, y) :: ns => decide (k = l) && (same x y && sameMembers ms ns)
  | _, _ => false

end

mutual

theorem same_iff : ∀ a b : Json, same a b = true ↔ a = b
  | .null, b => by cases b <;> simp [same]
  | .bool a, b => by cases b <;> simp [same]
  | .int a, b => by cases b <;> simp [same]
  | .double a, b => by cases b <;> simp [same]
  | .text a, b => by cases b <;> simp [same]
  | .array xs, b => by cases b <;> simp [same, sameItems_iff xs]
  | .object ms, b => by cases b <;> simp [same, sameMembers_iff ms]

theorem sameItems_iff : ∀ xs ys : List Json, sameItems xs ys = true ↔ xs = ys
  | [], ys => by cases ys <;> simp [sameItems]
  | x :: xs, ys => by cases ys <;> simp [sameItems, same_iff x, sameItems_iff xs]

theorem sameMembers_iff : ∀ ms ns : List (String × Json), sameMembers ms ns = true ↔ ms = ns
  | [], ns => by cases ns <;> simp [sameMembers]
  | (k, x) :: ms, ns => by
    cases ns <;> simp [sameMembers, same_iff x, sameMembers_iff ms, Prod.ext_iff, and_assoc]

end

instance : DecidableEq Json := fun a b => decidable_of_iff _ (same_iff a b)

/-- Whether a value is the given integer; a boolean is the number zero or one. -/
def isInt (n : Int) : Json → Bool
  | .bool b => n == if b then 1 else 0
  | .int m => n == m
  | .double x => x.sameAsInt n
  | _ => false

/-- Whether two values are the same number; a boolean is the number zero or one. -/
def sameNumber : Json → Json → Bool
  | .bool a, j => isInt (if a then 1 else 0) j
  | .int n, j => isInt n j
  | .double x, .double y => x.sameNumber y
  | .double x, .int n => x.sameAsInt n
  | .double x, .bool b => x.sameAsInt (if b then 1 else 0)
  | _, _ => false

mutual

/-- **Whether two values mean the same**: numbers by value, objects without regard to order. -/
def sameValue : Json → Json → Bool
  | .null, .null => true
  | .text a, .text b => a == b
  | .array xs, .array ys => sameValues xs ys
  | .object ms, .object ns => ms.length == ns.length && sameEntries ms ns
  | a, b => sameNumber a b

/-- `sameValue`, item by item. -/
def sameValues : List Json → List Json → Bool
  | [], [] => true
  | x :: xs, y :: ys => sameValue x y && sameValues xs ys
  | _, _ => false

/-- Whether every member has a namesake of the same value among the others. -/
def sameEntries : List (String × Json) → List (String × Json) → Bool
  | [], _ => true
  | (k, x) :: ms, ns =>
    (match Dict.findEntry k ns with
    | some y => sameValue x y
    | none => false) && sameEntries ms ns

end

/-! ## Nesting -/

mutual

/-- How deep a value nests; a value without parts is one level deep. -/
def levels : Json → Nat
  | .array xs => itemLevels xs + 1
  | .object ms => memberLevels ms + 1
  | _ => 1

/-- The deepest of some items. -/
def itemLevels : List Json → Nat
  | [] => 0
  | x :: xs => max (levels x) (itemLevels xs)

/-- The deepest of some members. -/
def memberLevels : List (String × Json) → Nat
  | [] => 0
  | (_, x) :: ms => max (levels x) (memberLevels ms)

end

/-! ## Repeated names -/

mutual

/-- **The value in which no object repeats a name**: of members of one name the last counts, at the
place of the first. -/
def settled : Json → Json
  | .array xs => .array (settledItems xs)
  | .object ms => .object (Dict.ofList (settledMembers ms)).entries
  | j => j

/-- `settled`, item by item. -/
def settledItems : List Json → List Json
  | [] => []
  | x :: xs => settled x :: settledItems xs

/-- `settled`, member by member. -/
def settledMembers : List (String × Json) → List (String × Json)
  | [] => []
  | (k, x) :: ms => (k, settled x) :: settledMembers ms

end

/-! ## Finite values -/

mutual

/-- Whether a value holds no NaN and no infinity. -/
def isFinite : Json → Bool
  | .double x => x.isFinite
  | .array xs => itemsFinite xs
  | .object ms => membersFinite ms
  | _ => true

/-- Whether all items are finite. -/
def itemsFinite : List Json → Bool
  | [] => true
  | x :: xs => isFinite x && itemsFinite xs

/-- Whether all members are finite. -/
def membersFinite : List (String × Json) → Bool
  | [] => true
  | (_, x) :: ms => isFinite x && membersFinite ms

end

mutual

/-- The value with a null for every NaN and infinity. -/
def dropNonFinite : Json → Json
  | .double x => if x.isFinite then .double x else .null
  | .array xs => .array (dropNonFiniteItems xs)
  | .object ms => .object (dropNonFiniteMembers ms)
  | j => j

/-- `dropNonFinite`, item by item. -/
def dropNonFiniteItems : List Json → List Json
  | [] => []
  | x :: xs => dropNonFinite x :: dropNonFiniteItems xs

/-- `dropNonFinite`, member by member. -/
def dropNonFiniteMembers : List (String × Json) → List (String × Json)
  | [] => []
  | (k, x) :: ms => (k, dropNonFinite x) :: dropNonFiniteMembers ms

end

mutual

theorem isFinite_dropNonFinite : ∀ j : Json, isFinite (dropNonFinite j) = true
  | .null => rfl
  | .bool _ => rfl
  | .int _ => rfl
  | .double x => by
    by_cases h : x.isFinite = true <;> simp [dropNonFinite, isFinite, h]
  | .text _ => rfl
  | .array xs => by simp [dropNonFinite, isFinite, itemsFinite_dropNonFiniteItems xs]
  | .object ms => by simp [dropNonFinite, isFinite, membersFinite_dropNonFiniteMembers ms]

theorem itemsFinite_dropNonFiniteItems :
    ∀ xs : List Json, itemsFinite (dropNonFiniteItems xs) = true
  | [] => rfl
  | x :: xs => by
    simp [dropNonFiniteItems, itemsFinite, isFinite_dropNonFinite x,
      itemsFinite_dropNonFiniteItems xs]

theorem membersFinite_dropNonFiniteMembers :
    ∀ ms : List (String × Json), membersFinite (dropNonFiniteMembers ms) = true
  | [] => rfl
  | (_, x) :: ms => by
    simp [dropNonFiniteMembers, membersFinite, isFinite_dropNonFinite x,
      membersFinite_dropNonFiniteMembers ms]

end

/-- The object of a dictionary. -/
def ofDict (d : Dict Json) : Json := .object d.entries

/-- The member of an object with the given name. -/
def get? (name : String) : Json → Option Json
  | .object ms => Dict.findEntry name ms
  | _ => none

end Json

end ExperimentGroups
