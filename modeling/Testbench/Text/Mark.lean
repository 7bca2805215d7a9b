import Testbench.Text.Mark.Table

/-!
# Mark — characters that combine with the one before them

- `isMark`         : membership in general category `M`;
- `combiningClass` : where a mark stands on its base; zero for all other characters.
-/

namespace Testbench
namespace Text

/-- Whether a character lies in one of some ranges. -/
def inRanges (ranges : List (Nat × Nat)) (c : Char) : Bool :=
  ranges.any fun r => r.1 ≤ c.toNat && c.toNat ≤ r.2

def isMark (c : Char) : Bool := inRanges Mark.markRanges c

/-- Marks of different classes may change places without effect. -/
def combiningClass (c : Char) : Nat :=
  if c.toNat < 0x300 then 0
  else ((Mark.classRows.find? fun row => inRanges row.2 c).map (·.1)).getD 0

/-- The class of marks that silence the vowel of a letter. -/
def silencing : Nat := 9

end Text
end Testbench
