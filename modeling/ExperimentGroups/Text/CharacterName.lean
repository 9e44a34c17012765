import ExperimentGroups.Text.NameTable

/-!
# Names of characters

Every character has a name in capital letters, digits, spaces and hyphens. Most names are in a
table, where a name may also be written in small letters. The names of syllables of the Korean
alphabet are made of the short names of their letters, and those of unified ideographs of their code
points.

## Main definitions

* `Text.isTabled`: the names of the table
* `Text.isSyllableName`, `Text.isIdeographName`: the names that follow a rule
* `Text.isCharacterName`: the names of characters
-/

namespace ExperimentGroups

namespace Text

/-! ## The table -/

/-- Whether a name is in the rest of a table. The last name so far comes with its last character
first; `grown` tells whether it is whole. -/
def isTabledFrom (name : List Char) (grown : Bool) (last : List Char) : List Char → Bool
  | [] => last == name
  | c :: cs =>
    if c.isLower then
      (grown && last == name) || isTabledFrom name false (last.drop (c.toNat - 97)) cs
    else isTabledFrom name true (c :: last) cs

/-- Whether a text is a name of the table, in capital or small letters. -/
def isTabled (name : List Char) : Bool :=
  isTabledFrom (name.map Char.toUpper).reverse false [] (nameTable.flatMap String.toList)

/-! ## Syllables -/

/-- The short names of the consonants that begin a syllable. -/
def leadingNames : List String :=
  ["G", "GG", "N", "D", "DD", "R", "M", "B", "BB", "S", "SS", "", "J", "JJ", "C", "K", "T", "P",
    "H"]

/-- The short names of the vowels. -/
def vowelNames : List String :=
  ["A", "AE", "YA", "YAE", "EO", "E", "YEO", "YE", "O", "WA", "WAE", "OE", "YO", "U", "WEO", "WE",
    "WI", "YU", "EU", "YI", "I"]

/-- The short names of what ends a syllable. -/
def trailingNames : List String :=
  ["", "G", "GG", "GS", "N", "NJ", "NH", "D", "L", "LG", "LM", "LB", "LS", "LT", "LP", "LH", "M",
    "B", "BS", "S", "SS", "NG", "J", "C", "K", "T", "P", "H"]

/-- What follows the longest of some starts of a text, if it has one. -/
def afterLongest? (starts : List String) (cs : List Char) : Option (List Char) :=
  let lengths := (starts.filter fun s => s.toList.isPrefixOf cs).map fun s => s.toList.length
  if lengths = [] then none else some (cs.drop (lengths.foldl max 0))

/-- Whether a text is the name of a syllable of the Korean alphabet, after the words in front. -/
def isSyllableName (cs : List Char) : Bool :=
  ((afterLongest? leadingNames cs).bind fun cs => (afterLongest? vowelNames cs).bind fun cs =>
    afterLongest? trailingNames cs) == some []

/-! ## Ideographs -/

/-- The ranges of unified ideographs. -/
def ideographs : List (Nat × Nat) :=
  [(0x3400, 0x4DBF), (0x4E00, 0x9FFF), (0x20000, 0x2A6DF), (0x2A700, 0x2B738), (0x2B740, 0x2B81D),
    (0x2B820, 0x2CEA1), (0x2CEB0, 0x2EBE0), (0x30000, 0x3134A)]

/-- The value of a hexadecimal digit with a capital letter. -/
def capitalHexDigit? (c : Char) : Option Nat :=
  if '0' ≤ c ∧ c ≤ '9' then some (c.toNat - 48)
  else if 'A' ≤ c ∧ c ≤ 'F' then some (c.toNat - 55)
  else none

/-- Whether a text is the name of a unified ideograph, after the words in front: four or five
hexadecimal digits. -/
def isIdeographName (cs : List Char) : Bool :=
  let n := (cs.filterMap capitalHexDigit?).foldl (fun v d => v * 16 + d) 0
  (cs.length == 4 || cs.length == 5) && cs.all (fun c => (capitalHexDigit? c).isSome) &&
    ideographs.any fun r => r.1 ≤ n && n ≤ r.2

/-! ## All names -/

/-- What follows some words in front of a text, if it begins with them. -/
def after? (words : String) (cs : List Char) : Option (List Char) :=
  if words.toList.isPrefixOf cs then some (cs.drop words.toList.length) else none

/-- **Whether a text is the name of a character.** -/
def isCharacterName (cs : List Char) : Bool :=
  match after? "HANGUL SYLLABLE " cs, after? "CJK UNIFIED IDEOGRAPH-" cs with
  | some rest, _ => isSyllableName rest
  | none, some rest => isIdeographName rest
  | none, none => cs != [] && isTabled cs

end Text

end ExperimentGroups
