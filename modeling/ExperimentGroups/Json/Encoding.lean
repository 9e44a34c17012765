import ExperimentGroups.Json.Token

/-!
# The encoding of a JSON message

A JSON message does not name its encoding. Its first two characters are ASCII, so the zeros among
its first four bytes tell it. A byte order mark of UTF-8 may stand in front.

Halves of surrogate pairs may stand alone in a message, and in code units of four bytes they always
do.

## Main definitions

* `Json.Encoding`, `Json.Encoding.ofBytes`: the encodings, and the one that some bytes are in
* `Json.Encoding.decode?`: the symbols of some bytes
* `Json.decode?`: the symbols of a message whose bytes are those of a text in UTF-8
-/

namespace ExperimentGroups

namespace Json

/-- **An encoding**; the most significant byte comes first or last. -/
inductive Encoding where
  | utf8
  | utf16 (bigEndian : Bool)
  | utf32 (bigEndian : Bool)
  deriving DecidableEq

namespace Encoding

/-- **The encoding that some bytes are in.** -/
def ofBytes : List Nat → Encoding
  | [a, b] => if a = 0 then .utf16 true else if b = 0 then .utf16 false else .utf8
  | a :: b :: c :: d :: _ =>
    if a = 0 then (if b = 0 then .utf32 true else .utf16 true)
    else if b = 0 then (if c = 0 ∧ d = 0 then .utf32 false else .utf16 false)
    else .utf8
  | _ => .utf8

/-! ## Code units -/

/-- Joins two units each into one that is wider, unless a unit is left over; `base` is how many
values a unit can have. -/
def joined? (bigEndian : Bool) (base : Nat) : List Nat → Option (List Nat)
  | [] => some []
  | a :: b :: rest =>
    (joined? bigEndian base rest).map
      ((if bigEndian then a * base + b else b * base + a) :: ·)
  | _ => none

/-- The symbol of a code point. -/
def pointSymbol (n : Nat) : Symbol :=
  if isHighSurrogate n || isLowSurrogate n then .lone n else .char (Char.ofNat n)

/-- The symbols of code units of two bytes each. -/
def unitSymbols : List Nat → List Symbol
  | [] => []
  | [n] => [pointSymbol n]
  | h :: l :: rest =>
    if isHighSurrogate h && isLowSurrogate l then .char (pairChar h l) :: unitSymbols rest
    else pointSymbol h :: unitSymbols (l :: rest)

/-- **The symbols of some bytes**; the characters of UTF-8 are known already. -/
def decode? (known : List Char) (bytes : List Nat) : Encoding → Option (List Symbol)
  | .utf8 => some (known.map .char)
  | .utf16 bigEndian => (joined? bigEndian 256 bytes).map unitSymbols
  | .utf32 bigEndian => do
    let halves ← joined? bigEndian 256 bytes
    let points ← joined? bigEndian 65536 halves
    if points.all (· ≤ 0x10FFFF) then some (points.map pointSymbol) else none

end Encoding

/-- **The symbols of a message** whose bytes are those of a text in UTF-8, unless the message is in
another encoding and does not follow it. -/
def decode? (s : String) : Option (List Symbol) :=
  match s.toList with
  | '\uFEFF' :: cs => some (cs.map .char)
  | cs =>
    let bytes := s.toUTF8.toList.map UInt8.toNat
    (Encoding.ofBytes bytes).decode? cs bytes

end Json

end ExperimentGroups
