import Testbench.Path

/-!
# State — what is known about a project's environment
-/

namespace Testbench
namespace Environment

inductive Phase where
  | unchecked
  | outside
  | inside
  /-- A new environment is being made. -/
  | initializing
  deriving DecidableEq, Repr, Inhabited

inductive RequirementsStatus where
  | satisfied
  | unsatisfied
  /-- The project has no requirements file. -/
  | unknown
  deriving DecidableEq, Repr, Inhabited

structure State where
  /-- The environment in use. -/
  env : Option Path
  /-- Whether making an environment has been tried. -/
  initialized : Bool
  /-- Whether the tool that makes environments was found or reported missing. -/
  toolChecked : Bool
  phase : Phase
  /-- The outcome of the latest check. -/
  requirements : Option RequirementsStatus
  deriving DecidableEq, Repr, Inhabited

def State.initial : State := ⟨none, false, false, .unchecked, none⟩

end Environment
end Testbench
