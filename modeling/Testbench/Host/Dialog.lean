import Testbench.Path

/-!
# Dialog — what is asked of a person, and what a person sees

- `Answer`, `Choices` : prompts with fixed answers;
- `Editor`            : the file a person looks at;
- `Event`             : one request to the host, as a recorder writes it down.
-/

namespace Testbench
namespace Host

inductive Answer where
  | yes
  | no
  /-- Do not ask again. -/
  | suppress
  /-- Closed without an answer. -/
  | dismissed
  deriving DecidableEq, Repr, Inhabited

inductive Choices where
  | yesNo
  | yesNoSuppress
  deriving DecidableEq, Repr, Inhabited

/-- Lines count from 1. -/
structure Editor where
  file : Path
  line : Nat
  deriving DecidableEq, Repr, Inhabited

inductive Event where
  | prompt (message : String)
  | pick (items : List String)
  | input (message : String)
  | error (message : String)
  | info (message : String)
  | status (text : String)
  | saved (file : Path)
  | opened (file : Path) (line : Option Nat)
  /-- The whole tree, or the entry with a label. -/
  | treeChanged (label : Option String)
  | lensesChanged
  | interpreterSelection
  deriving DecidableEq, Repr, Inhabited

end Host
end Testbench
