import ExperimentGroups.Json.Token

/-!
# Reading JSON

The tokens of a text are read by a machine with a stack of the arrays and objects that are open. The
first fault decides why a text is not read.

## Main definitions

* `Json.Grammar`: what is let in beyond the standard, and the limits
* `Json.Grammar.strict`, `Json.Grammar.lenient`: the two grammars in use
* `Json.Refusal`: why a text is not read
* `Json.Builder.step`, `Json.build`: the machine and the value of a list of tokens
* `Json.readSymbols`, `Json.read`, `Json.read?`: the value of some symbols and of a text
-/

namespace ExperimentGroups

namespace Json

/-- **What a reader lets in**: lone surrogates or not; repeated names, or only the last member of a
name, at the place of the first; the limit of numbers for doubles too, or not; and parts of so many
open arrays and objects. -/
structure Grammar where
  loneSurrogates : Bool
  repeatedNames : Bool
  limitsDoubles : Bool
  nesting : Option Nat

/-- The grammar of documents: no lone surrogates, repeated names as they stand, and parts of at most
two hundred open arrays and objects. -/
def Grammar.strict : Grammar := ⟨false, true, true, some 200⟩

/-- The grammar of messages: lone surrogates, no repeated names, and a deeper nesting. -/
def Grammar.lenient : Grammar := ⟨true, false, false, some 967⟩

/-- **Why a text is not read**: it is no JSON, or beyond the limits. -/
inductive Refusal where
  | malformed
  | beyondLimits
  deriving DecidableEq

/-- An open array with its items so far, or an open object with its members so far and the name of
the member whose value is being read; the last comes first. -/
inductive Frame where
  | array (items : List Json)
  | member (members : List (String × Json)) (name : String)

/-- What may come next. -/
inductive Place where
  | value
  | firstItem
  | firstName
  | nextItem (items : List Json)
  | nextMember (members : List (String × Json))
  | name (members : List (String × Json))
  | colon (members : List (String × Json)) (name : String)
  | ended (value : Json)

/-- The object of members that come last first. -/
def Grammar.objectOf (g : Grammar) (reversed : List (String × Json)) : Json :=
  .object (if g.repeatedNames then reversed.reverse else (Dict.ofList reversed.reverse).entries)

namespace Builder

/-- A whole value, within the innermost open array or object. -/
def put (j : Json) : List Frame → Place × List Frame
  | [] => (.ended j, [])
  | .array items :: open' => (.nextItem (j :: items), open')
  | .member members name :: open' => (.nextMember ((name, j) :: members), open')

/-- The first token of a value. -/
def start (opened : List Frame) : Token → Except Refusal (Place × List Frame)
  | .word j => .ok (put j opened)
  | .text s _ => .ok (put (.text s) opened)
  | .openBracket => .ok (.firstItem, opened)
  | .openBrace => .ok (.firstName, opened)
  | .excess => .error .beyondLimits
  | _ => .error .malformed

/-- Goes on with the first part of an array or object, if there is room within those that are
open. -/
def within (g : Grammar) (opened : List Frame) (r : Except Refusal (Place × List Frame)) :
    Except Refusal (Place × List Frame) :=
  if g.nesting.any (· ≤ opened.length) then .error .beyondLimits else r

/-- **One token.** -/
def step (g : Grammar) : Place × List Frame → Token → Except Refusal (Place × List Frame)
  | (.value, opened), t => start opened t
  | (.firstItem, opened), .closeBracket => .ok (put (.array []) opened)
  | (.firstItem, opened), t => within g opened (start (.array [] :: opened) t)
  | (.nextItem items, opened), .comma => .ok (.value, .array items :: opened)
  | (.nextItem items, opened), .closeBracket => .ok (put (.array items.reverse) opened)
  | (.firstName, opened), .closeBrace => .ok (put (.object []) opened)
  | (.firstName, opened), .text s _ => within g opened (.ok (.colon [] s, opened))
  | (.name members, opened), .text s _ => .ok (.colon members s, opened)
  | (.colon members s, opened), .colon => .ok (.value, .member members s :: opened)
  | (.nextMember members, opened), .comma => .ok (.name members, opened)
  | (.nextMember members, opened), .closeBrace => .ok (put (g.objectOf members) opened)
  | _, _ => .error .malformed

/-- The value at the end of the tokens, which are the whole text or not. -/
def finish : Bool → Place × List Frame → Except Refusal Json
  | true, (.ended j, _) => .ok j
  | _, _ => .error .malformed

end Builder

/-- The value of a list of tokens, which are the whole text or not. -/
def build (g : Grammar) (ts : List Token) (whole : Bool) : Except Refusal Json :=
  (ts.foldlM (Builder.step g) (.value, [])).bind (Builder.finish whole)

/-! ## Texts -/

/-- The blocks that can stand for lone surrogates: those of the two planes for private use. -/
def blocks : List Nat := (List.range 64).map fun i => 0xF0000 + 0x800 * i

/-- Whether a token holds a lone surrogate. -/
def Token.isLone : Token → Bool
  | .text _ marks => marks.lone
  | _ => false

/-- Whether a token holds a character of the block that stands for lone surrogates. -/
def Token.isClashing : Token → Bool
  | .text _ marks => marks.clash
  | _ => false

/-- The tokens of a text, and the block that stands for its lone surrogates if it has any. Of some
blocks the first is taken of which no character is in the text, and else the last. -/
def scanFrom (limitsDoubles : Bool) : List Nat → List Symbol → (List Token × Bool) × Option Nat
  | [], ss => (scan ⟨none, limitsDoubles⟩ ss, none)
  | block :: blocks, ss =>
    let (ts, whole) := scan ⟨some block, limitsDoubles⟩ ss
    if ts.any Token.isLone then
      if ts.any Token.isClashing ∧ blocks ≠ [] then scanFrom limitsDoubles blocks ss
      else ((ts, whole), some block)
    else ((ts, whole), none)

/-- **The value of some symbols**, and the block that stands for the lone surrogates if there are
any. -/
def readSymbols (g : Grammar) (ss : List Symbol) : Except Refusal (Json × Option Nat) :=
  let ((ts, whole), block) := scanFrom g.limitsDoubles (if g.loneSurrogates then blocks else []) ss
  (build g ts whole).map (·, block)

/-- **The value of a text**, and the block that stands for its lone surrogates if it has any. -/
def read (g : Grammar) (cs : List Char) : Except Refusal (Json × Option Nat) :=
  readSymbols g (cs.map .char)

/-- The value of a text. -/
def read? (g : Grammar) (cs : List Char) : Option Json := ((read g cs).map Prod.fst).toOption

end Json

end ExperimentGroups
