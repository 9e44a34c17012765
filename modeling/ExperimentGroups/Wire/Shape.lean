import ExperimentGroups.Wire.Double
import ExperimentGroups.Wire.Integer

/-!
# Shapes

A shape describes how something stands in JSON, for reading and for writing at once. Reading is
lenient about spellings (a field has two names, numbers may be texts, unknown members do not
matter) and reports every problem. Writing follows a style.

The members of an object may repeat a name where they stand in a document. A dictionary is read with
all of them, so that each may have problems; a record and a free-form value only have the last.

## Main definitions

* `Wire.Key`: the two names of a field
* `Wire.Shape`, `Wire.Fields`: shapes, and the fields of a record
* `Wire.Shape.read`: the reader
* `Wire.Style`, `Wire.Shape.write`: the writer

## Main results

* `Wire.Shape.read_nullable_null`, `Wire.Shape.read_anything`: the shapes that take a null
-/

namespace ExperimentGroups

namespace Wire

/-- The two names of a field: as in `bucketValue`, and as in `bucket_value`. -/
structure Key where
  camel : String
  snake : String
  deriving DecidableEq

/-- The name of a field that is spelled in one way only. -/
def Key.plain (name : String) : Key := ⟨name, name⟩

/-- Whether an array is a list or a tuple; only the fault of another value differs. -/
inductive Sequence where
  | list
  | tuple
  deriving DecidableEq

/-- The fault of a value that is no array. -/
def Sequence.fault : Sequence → Fault
  | .list => .notList
  | .tuple => .notTuple

mutual

/-- **A shape**: how an `α` stands in JSON. A record is made from its fields, unless they do not go
together. -/
inductive Shape : Type → Type 1 where
  | text (least : Nat) (most : Option Nat) : Shape String
  | choice {α : Type} (options : List (String × α)) (label : α → String) : Shape α
  | integer : Shape Int
  | double : Shape Double
  | share : Shape Double
  | anything : Shape Json
  | nullable {α : Type} (s : Shape α) : Shape (Option α)
  | sequence {α : Type} (kind : Sequence) (s : Shape α) : Shape (List α)
  | dict {α : Type} (s : Shape α) : Shape (Dict α)
  | record {α β : Type} (fields : Fields α β) (make : β → Except Fault α) : Shape α

/-- **The fields of a record** of type `ρ`, in the order of declaration, with their values in a
nested pair. A field without a default must be there. -/
inductive Fields : Type → Type → Type 1 where
  | done {ρ : Type} : Fields ρ Unit
  | field {ρ α β : Type} (key : Key) (default : Option α) (get : ρ → α) (shape : Shape α)
      (rest : Fields ρ β) : Fields ρ (α × β)

end

/-! ## Reading -/

/-- Reads the items of an array, counting from `i`. -/
def readItems {α : Type} (read : Json → Checked α) : Nat → List Json → Checked (List α)
  | _, [] => .ok []
  | i, j :: js =>
    (both (under (.item i) (read j)) (readItems read (i + 1) js)).map fun p => p.1 :: p.2

/-- Reads the entries of a dictionary. -/
def readEntries {α : Type} (read : Json → Checked α) :
    List (String × Json) → Checked (List (String × α))
  | [] => .ok []
  | (k, j) :: ms =>
    (both (under (.member k) (read j)) (readEntries read ms)).map fun p => (k, p.1) :: p.2

/-- The member for a field, with the name it has: of two spellings the first counts, of members of
one name the last. -/
def Key.find? (key : Key) (ms : List (String × Json)) : Option (String × Json) :=
  match Dict.findLast key.camel ms with
  | some j => some (key.camel, j)
  | none => (Dict.findLast key.snake ms).map (key.snake, ·)

/-- A text within bounds, counted in characters. -/
def readText (least : Nat) (most : Option Nat) : Json → Checked String
  | .text s =>
    if s.length < least then fail .textTooShort (.text s)
    else if most.any (· < s.length) then fail .textTooLong (.text s)
    else .ok s
  | j => fail .notText j

/-- One of some named options. -/
def readChoice {α : Type} (options : List (String × α)) : Json → Checked α
  | .text s =>
    match Dict.findEntry s options with
    | some a => .ok a
    | none => fail .notAChoice (.text s)
  | j => fail .notAChoice j

/-- A result or the fault of the value itself. -/
def orFail {α : Type} (j : Json) : Except Fault α → Checked α
  | .ok a => .ok a
  | .error f => fail f j

mutual

/-- **Reads a value of a shape.** -/
def Shape.read {α : Type} (origin : Origin) : Shape α → Json → Checked α
  | .text least most, j => readText least most j
  | .choice options _, j => readChoice options j
  | .integer, j => orFail j (Wire.integer j)
  | .double, j => orFail j (Wire.double origin j)
  | .share, j => orFail j (Wire.share origin j)
  | .anything, j => .ok j.settled
  | .nullable s, j =>
    match j with
    | .null => .ok none
    | j => (s.read origin j).map some
  | .sequence kind s, j =>
    match j with
    | .array js => readItems (s.read origin) 0 js
    | j => fail kind.fault j
  | .dict s, j =>
    match j with
    | .object ms => (readEntries (s.read origin) ms).map Dict.ofList
    | j => fail .notDict j
  | .record fields make, j =>
    match j with
    | .object ms => (fields.read origin ms).bind fun b => orFail (.object ms) (make b)
    | j => fail .notRecord j

/-- Reads the fields of a record from the members of an object. -/
def Fields.read {ρ β : Type} (origin : Origin) : Fields ρ β → List (String × Json) → Checked β
  | .done, _ => .ok ()
  | .field key default _ s rest, ms =>
    both
      (match key.find? ms with
      | some (name, j) => under (.member name) (s.read origin j)
      | none =>
        match default with
        | some a => .ok a
        | none => under (.member key.camel) (fail .missing (.object ms)))
      (rest.read origin ms)

end

@[simp] theorem Shape.read_anything (origin : Origin) (j : Json) :
    Shape.anything.read origin j = .ok j.settled := by
  simp [Shape.read]

@[simp] theorem Shape.read_nullable_null {α : Type} (origin : Origin) (s : Shape α) :
    (Shape.nullable s).read origin .null = .ok none := by
  simp [Shape.read]

/-! ## Writing -/

/-- **A style of writing**: by which names, and whether fields that are null are kept. -/
structure Style where
  camel : Bool
  keepNulls : Bool
  deriving DecidableEq

/-- The wire form: camel case, no null fields. -/
def Style.wire : Style := ⟨true, false⟩

/-- Camel case, all fields. -/
def Style.full : Style := ⟨true, true⟩

/-- Snake case, no null fields. -/
def Style.snake : Style := ⟨false, false⟩

/-- The name of a field in a style. -/
def Style.name (style : Style) (key : Key) : String :=
  if style.camel then key.camel else key.snake

/-- One field, unless it is null and nulls are dropped. -/
def Style.member (style : Style) (key : Key) (j : Json) : List (String × Json) :=
  match j with
  | .null => if style.keepNulls then [(style.name key, .null)] else []
  | j => [(style.name key, j)]

mutual

/-- **Writes a value in a style.** Free-form values are written without NaN and infinities. -/
def Shape.write {α : Type} (style : Style) : Shape α → α → Json
  | .text _ _, s => .text s
  | .choice _ label, a => .text (label a)
  | .integer, n => .int n
  | .double, x => .double x
  | .share, x => .double x
  | .anything, j => j.dropNonFinite
  | .nullable s, a =>
    match a with
    | none => .null
    | some a => s.write style a
  | .sequence _ s, xs => .array (xs.map (s.write style))
  | .dict s, d => .object (d.map fun _ a => s.write style a).entries
  | .record fields _, a => .object (fields.write style a)

/-- Writes the fields of a record. -/
def Fields.write {ρ β : Type} (style : Style) : Fields ρ β → ρ → List (String × Json)
  | .done, _ => []
  | .field key _ get s rest, r =>
    style.member key (s.write style (get r)) ++ rest.write style r

end

/-- The wire form of a value. -/
def Shape.wire {α : Type} (s : Shape α) (a : α) : Json := s.write .wire a

end Wire

end ExperimentGroups
