import Testbench.Text.Digit

/-!
# Version — the version of the tool that makes environments
-/

namespace Testbench
namespace Environment

/-- The newest major version that is too old. -/
def oldMajor : Nat := 13

/-- The first number in what the tool prints. A run of digits that are not all ASCII is no number,
nor is one of 2³² or more. -/
def virtualenvMajor? (printed : String) : Option Nat :=
  Text.readCount? (Nat.pow 2 32) (Text.digitRun printed)

def isRecent (printed : String) : Bool := (virtualenvMajor? printed).any (· > oldMajor)

end Environment
end Testbench
