import Testbench.Text.Composition
import Testbench.Url.Direction
import Testbench.Url.Letters
import Testbench.Url.Punycode

/-!
# Name — names of hosts in ASCII

A name is brought to the one form of its letters, and labels outside ASCII are encoded.

- `normal?`      : the one form of a name, or of a label;
- `isLabel`      : whether a label outside ASCII may stand in a name;
- `nameToAscii?` : a name as it is written in ASCII.
-/

namespace Testbench
namespace Url

/-! ## Forms -/

/-- Characters that no name may hold. -/
def isForbiddenInName (c : Char) : Bool :=
  c.toNat ≤ 0x20 || c.toNat == 0x7F ||
    ['#', '/', ':', '<', '>', '?', '@', '[', '\\', ']', '^', '|', '%'].contains c

/-- The one form of a text; `none` if it holds characters that are never allowed. -/
def normal? (cs : List Char) : Option (List Char) :=
  if cs.any isUnwritable then none else some (Text.composed (cs.flatMap form))

/-! ## Joiners

Two signs without a width part or join the letters beside them. They may stand only where that can
be seen. -/

def nonJoiner : Char := '\u200c'

def joiner : Char := '\u200d'

/-- Letters that join with the letter before them only. -/
def endJoining : List (Nat × Nat) := [
  (0x622, 0x625), (0x627, 0x627), (0x629, 0x629), (0x62F, 0x632), (0x648, 0x648), (0x671, 0x673),
  (0x675, 0x677), (0x688, 0x699), (0x6C0, 0x6C0), (0x6C3, 0x6CB), (0x6CD, 0x6CD), (0x6CF, 0x6CF),
  (0x6D2, 0x6D3), (0x6D5, 0x6D5), (0x6EE, 0x6EF), (0x759, 0x75B), (0x76B, 0x76C), (0x771, 0x771),
  (0x773, 0x774), (0x778, 0x779)]

/-- Letters that join with those beside them. -/
def joining : List (Nat × Nat) := [
  (0x620, 0x620), (0x622, 0x63F), (0x641, 0x64A), (0x66E, 0x66F), (0x671, 0x673), (0x675, 0x6D3),
  (0x6D5, 0x6D5), (0x6EE, 0x6EF), (0x6FA, 0x6FC), (0x6FF, 0x6FF), (0x750, 0x77F)]

def joinsNext (c : Char) : Bool := Text.inRanges joining c && !Text.inRanges endJoining c

def firstLetter? (cs : List Char) : Option Char := cs.find? fun c => !Text.isMark c

/-- Whether each joiner of a label is seen; `before` is what stands before, the last first. -/
def joinersFit (before : List Char) : List Char → Bool
  | [] => true
  | c :: rest =>
    let isSilenced := before.head?.any fun d => Text.combiningClass d == Text.silencing
    let parts := (firstLetter? before).any joinsNext
      && (firstLetter? rest).any (Text.inRanges joining)
    (if c == joiner then isSilenced else if c == nonJoiner then isSilenced || parts else true)
      && joinersFit (c :: before) rest

/-! ## Labels -/

def isAsciiChar (c : Char) : Bool := c.toNat < 0x80

/-- A label outside ASCII starts with no mark, and its joiners are seen. -/
def isLabel (label : List Char) : Bool :=
  !label.head?.any Text.isMark && joinersFit [] label

/-- A label as it is shown, and in ASCII. -/
structure Label where
  shown : List Char
  ascii : List Char
  deriving DecidableEq, Repr, Inhabited

/-- A label in its one form. One that is already encoded has to encode a label outside ASCII. -/
def label? (cs : List Char) : Option Label :=
  match cs with
  | 'x' :: 'n' :: '-' :: '-' :: code => do
    let shown ← Punycode.decode? code
    if !shown.all isAsciiChar && normal? shown == some shown && isLabel shown then
      some ⟨shown, cs⟩
    else none
  | cs =>
    if cs.all isAsciiChar then some ⟨cs, cs⟩
    else if isLabel cs then some ⟨cs, 'x' :: 'n' :: '-' :: '-' :: Punycode.encode cs⟩
    else none

/-! ## Names -/

/-- A name in small ASCII letters. -/
def nameToAscii? (cs : List Char) : Option (List Char) := do
  let name ← normal? cs
  if name.any isForbiddenInName then none
  else
    let labels ← (Text.splitOn '.' name).mapM label?
    let isSound := !(labels.any fun l => isDirected l.shown)
      || labels.all fun l => keepsDirection l.shown
    if isSound then some (Text.joinWith '.' (labels.map (·.ascii))) else none

end Url
end Testbench
