import ExperimentGroups.Service.Host.Label
import ExperimentGroups.Service.Host.Numeric
import ExperimentGroups.Text.LowerCase

/-!
# Hosts

The host of an address is a name, a number in its short form, or a number in its long form between
brackets. A name in ASCII is taken as it is, but for its case and for characters that have to be
escaped; all others have to be made of labels.

## Main definitions

* `Host`: the hosts
* `Host.read?`: the host that a text stands for
* `Host.checkName`: whether the labels of a name can be read
-/

namespace ExperimentGroups

/-- **The hosts**: a name or a number in its short form, as it is written on the wire, or a number
in its long form. The name is empty if there is no host. -/
inductive Host where
  | name (text : List Char)
  | long (text : List Char)
  deriving DecidableEq

namespace Host

/-- Whether a text is in ASCII. -/
def isAscii (cs : List Char) : Bool := cs.all (·.toNat < 128)

/-- Whether an ASCII character of a name has to be escaped. -/
def isEscaped (c : Char) : Bool :=
  c == ' ' || c == '<' || c == '>' || c == '[' || c == ']' || c == '^'

/-- A character of a name as it is written on the wire. -/
def wireChar (c : Char) : List Char :=
  if isEscaped c then '%' :: (Nat.toDigits 16 c.toNat).map Char.toUpper else [c]

/-- The marks that part labels. -/
def isLabelEnd (c : Char) : Bool := c == '.' || c == '。' || c == '．' || c == '｡'

/-- The labels of a name, without an empty one at its end. -/
def labels (cs : List Char) : List (List Char) :=
  let parts := Text.split '.' (cs.map fun c => if isLabelEnd c then '.' else c)
  if parts.getLast? = some [] then parts.dropLast else parts

/-- The longest name on the wire. -/
def nameLimit : Nat := 253

/-- **The name that labels make** on the wire. An empty label may end it. -/
def writeName? (cs : List Char) : Option (List Char) :=
  match (labels cs).mapM Label.write with
  | .error _ => none
  | .ok texts =>
    let text := ['.'].intercalate texts
    if cs.length ≤ nameLimit + 1 ∧ text.length ≤ nameLimit then
      some (if cs.getLast?.any isLabelEnd then text ++ ['.'] else text)
    else none

/-- **The host that a text stands for.** What resembles a number has to be one. -/
def read? (cs : List Char) : Option Host :=
  if resemblesShortNumber cs then if isShortNumber cs then some (.name cs) else none
  else if cs.head? = some '[' ∧ cs.getLast? = some ']' then
    let inner := (cs.drop 1).dropLast
    if isLongNumber inner then some (.long inner) else none
  else if isAscii cs then some (.name ((Text.lower cs).flatMap wireChar))
  else (writeName? (Text.lower cs)).map .name

/-- Whether an address has a host. -/
def isPresent : Host → Bool
  | .name text => text != []
  | .long _ => true

/-- **Whether the labels of a name can be read**; they are only looked at if the first one is in
Punycode. -/
def checkName (text : List Char) : Except Label.Fault Unit :=
  if text.take 4 = Label.wirePrefix then
    if text.length ≤ nameLimit + 1 then (labels text).forM Label.checkWritten
    else .error .malformed
  else .ok ()

end Host

end ExperimentGroups
