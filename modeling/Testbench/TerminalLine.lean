import Testbench.Platform
import Testbench.Invocation
import Testbench.Url.Authority

/-!
# TerminalLine — the lines sent to a project's terminal

Each line is written for the shell of a platform.
-/

namespace Testbench
namespace TerminalLine

/-- Let modules be found from the root of a project. -/
def exportPythonPath (p : Platform) (root : Path) : String :=
  match p with
  | .unix => "export PYTHONPATH=" ++ root.text
  | .windows => "set PYTHONPATH=" ++ root.text

/-- Enter an environment. -/
def activate (p : Platform) (env : Path) : String :=
  match p with
  | .unix => "source " ++ quote ((env.joinText "bin").joinText "activate").text ++ ";"
  | .windows => "\"" ++ ((env.joinText "Scripts").joinText "activate.bat").text ++ "\""

/-- Leave the environment. -/
def deactivate : String := "deactivate"

/-- Put a directory first on the search path. -/
def prependPath (p : Platform) (dir : Path) : String :=
  match p with
  | .unix => "export PATH=" ++ dir.text ++ ":$PATH"
  | .windows => "SET PATH=" ++ dir.text ++ ";" ++ (dir.joinText "Scripts").text ++ ";%PATH%"

def createVirtualenv (python env : Path) : String :=
  "\"" ++ python.text ++ "\" -m virtualenv \"" ++ env.text ++ "\" --python=" ++ quote python.text

/-- Name a package index, and trust its host if it has one. -/
def indexOptions (index : String) : String :=
  " -i " ++ index ++ match Url.hostAndPort? index with
    | some host => " --trusted-host " ++ host
    | none => ""

def pipInstall (python requirements : Path) (index : Option String) : String :=
  quote python.text ++ " -m pip install -r " ++ quote requirements.text
    ++ (index.map indexOptions).getD ""

def runScript (python script : Path) : String :=
  quote python.text ++ " " ++ quote script.text

def runTestcase (python : Path) (dotted : String) : String :=
  quote python.text ++ " manage.py runtest " ++ dotted

end TerminalLine
end Testbench
