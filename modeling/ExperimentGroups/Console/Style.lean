import ExperimentGroups.Console.Color

/-!
# Styles of the console

A style is written in words: attributes, `not` before an attribute that is taken away, a color,
`on` before the color of the background, `link` before an address. Some attributes have short
names. Of words for one property the last counts, so that styles with the same effect have the same
normal form. A text that is no style has a normal form too, in lower case.

## Main definitions

* `Style`: the styles
* `Style.ofWords`, `Style.chars`: reading a style, and its normal form
* `Style.fault?`: what keeps a text from being judged as a style
* `Style.normal`: the normal form of a text
-/

namespace ExperimentGroups

/-- **A style**: colors, the address of a link, and for each attribute whether it is set, taken away
or neither. -/
structure Style where
  color : Option (List Char)
  background : Option (List Char)
  link : Option (List Char)
  attributes : List (Option Bool)
  deriving DecidableEq

namespace Style

/-- The attributes, in the order of the normal form. -/
def attributeNames : List String :=
  ["bold", "dim", "italic", "underline", "blink", "blink2", "reverse", "conceal", "strike",
    "underline2", "frame", "encircle", "overline"]

/-- The short names of attributes. -/
def shortNames : List (String × String) :=
  [("b", "bold"), ("d", "dim"), ("i", "italic"), ("u", "underline"), ("r", "reverse"),
    ("c", "conceal"), ("s", "strike"), ("uu", "underline2"), ("o", "overline")]

/-- The place of an attribute in the normal form, by either of its names. -/
def attribute? (word : List Char) : Option Nat :=
  let name := String.ofList word
  let long := ((shortNames.find? (·.1 == name)).map Prod.snd).getD name
  attributeNames.findIdx? (· == long)

/-- The style without properties. -/
def none : Style := ⟨.none, .none, .none, attributeNames.map fun _ => .none⟩

/-- Why some words are no style: they are none, or a color among them cannot be judged. -/
inductive Obstacle where
  | notAStyle
  | badComponent (component : List Char)
  deriving DecidableEq

/-- A word that has to be a color, in lower case. -/
def colorOf (word : List Char) : Except Obstacle (List Char) :=
  let color := Text.lower word
  match Color.verdict color with
  | .color => .ok color
  | .other => .error .notAStyle
  | .badComponent component => .error (.badComponent component)

/-- The style with one more word that stands by itself. -/
def withWord (s : Style) (word : List Char) : Except Obstacle Style :=
  match attribute? (Text.lower word) with
  | some i => .ok { s with attributes := s.attributes.set i (some true) }
  | .none => (colorOf word).map fun color => { s with color := some color }

/-- The style with one more word behind one that announces it, if the first word does that. -/
def withPair? (s : Style) (first word : List Char) : Option (Except Obstacle Style) :=
  match String.ofList (Text.lower first) with
  | "on" => some ((colorOf word).map fun color => { s with background := some color })
  | "not" =>
    some (match attribute? word with
      | some i => .ok { s with attributes := s.attributes.set i (some false) }
      | .none => .error .notAStyle)
  | "link" => some (.ok { s with link := some word })
  | _ => .none

/-- **The style of some words**, added to a style. -/
def ofWords : List (List Char) → Style → Except Obstacle Style
  | [], s => .ok s
  | [word], s => withWord s word
  | first :: word :: rest, s =>
    match withPair? s first word with
    | some r => r.bind (ofWords rest)
    | .none => (withWord s first).bind (ofWords (word :: rest))

/-! ## Normal forms -/

/-- The words of the attributes that are set or taken away. -/
def attributeWords (s : Style) : List (List Char) :=
  (attributeNames.zip s.attributes).filterMap fun a =>
    a.2.map fun isSet => (if isSet then a.1 else "not " ++ a.1).toList

/-- **The normal form of a style.** -/
def chars (s : Style) : List Char :=
  let words := s.attributeWords ++ s.color.toList ++
    (s.background.map fun b => ['o', 'n', ' '] ++ b).toList ++
    (s.link.map fun l => ['l', 'i', 'n', 'k', ' '] ++ l).toList
  if words = [] then ['n', 'o', 'n', 'e'] else [' '].intercalate words

/-- **The component of a color that keeps a text from being judged as a style**, if there is one. -/
def fault? (cs : List Char) : Option (List Char) :=
  match ofWords (Text.words Text.isBlankOrSeparator cs) none with
  | .error (.badComponent component) => some component
  | _ => .none

/-- **The normal form of a text**, unless a color in it cannot be judged. -/
def normal (cs : List Char) : Except (List Char) (List Char) :=
  let trimmed := Text.trim Text.isBlankOrSeparator cs
  if trimmed = ['n', 'o', 'n', 'e'] then .ok trimmed
  else
    match ofWords (Text.words Text.isBlankOrSeparator cs) none with
    | .ok s => .ok s.chars
    | .error .notAStyle => .ok (Text.lower trimmed)
    | .error (.badComponent component) => .error component

end Style

end ExperimentGroups
