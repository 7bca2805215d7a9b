import Testbench.Path

/-!
# Platform — layout of virtual environments by system family

- `Platform`         : the two families;
- `envPython`        : the interpreter inside an environment;
- `activationMarker` : the file that tells an environment from any other directory.
-/

namespace Testbench

inductive Platform where
  | unix
  | windows
  deriving DecidableEq, Repr, Inhabited

namespace Platform

/-- Stands beside the interpreter of every environment. -/
def markerName : String := "activate_this.py"

/-- The directory of interpreter and scripts inside an environment. -/
def binDir : Platform → String
  | .unix => "bin"
  | .windows => "Scripts"

def pythonName : Platform → String
  | .unix => "python"
  | .windows => "python.exe"

def envPython (p : Platform) (env : Path) : Path :=
  (env.joinText p.binDir).joinText p.pythonName

def activationMarker (p : Platform) (env : Path) : Path :=
  (env.joinText p.binDir).joinText markerName

/-- The interpreter when nothing names one. -/
def defaultPython (p : Platform) : Path := ⟨p.pythonName⟩

end Platform
end Testbench
