import Testbench.Config
import Testbench.HelperScript.Outline
import Testbench.HelperScript.Requirements

/-!
# Location — where the helper scripts lie

The project's interpreter runs two scripts: one prints the outline of a source, the other tells
whether the requirements are met. The configuration may name scripts of its own; the built-in ones
are written to a directory first.

- `HelperScripts`               : the two places;
- `HelperScripts.writeInto`     : put the built-in scripts into a directory;
- `HelperScripts.ofConfig`      : the scripts of a configuration.
-/

namespace Testbench

structure HelperScripts where
  outline : Path
  requirements : Path
  deriving DecidableEq, Repr, Inhabited

namespace HelperScripts

/-- A script as the text of its file. -/
def scriptText (lines : List String) : String :=
  String.join (lines.map fun line => line ++ "\n")

def outlineName : String := "parse_file.py"

def requirementsName : String := "parse_requirements.py"

/-- The version that names the directory of the built-in scripts. -/
def version : String := "0.1.0"

/-- The directory of the built-in scripts inside the directory for temporary files. -/
def defaultDir (temporary : Path) : Path := (temporary.joinText "qta-runner").joinText version

/-- Write a file unless it already holds the text. -/
def writeIfChanged (p : Path) (s : String) : FileM Unit := do
  match (← get).readText p with
  | .ok current => if current == s then pure () else FileM.writeText p s
  | .error _ => FileM.writeText p s

/-- Put the built-in scripts into a directory. -/
def writeInto (dir : Path) : FileM HelperScripts := do
  let scripts : HelperScripts := ⟨dir.joinText outlineName, dir.joinText requirementsName⟩
  FileM.createDirs dir
  writeIfChanged scripts.outline (scriptText HelperScript.outlineLines)
  writeIfChanged scripts.requirements (scriptText HelperScript.requirementsLines)
  pure scripts

/-- A configured script has to be a file. -/
def pick (t : FileTree) (configured : Option Path) (builtIn : Path) : Except Error Path :=
  match configured with
  | some p => if t.isFile p then .ok p else .error (.config (.missingScript p))
  | none => .ok builtIn

def pickBoth (t : FileTree) (c : Config) (builtIn : HelperScripts) :
    Except Error HelperScripts := do
  let outline ← pick t c.parserScript builtIn.outline
  let requirements ← pick t c.requirementsScript builtIn.requirements
  .ok ⟨outline, requirements⟩

/-- The configured scripts, with built-in ones in place of those that are not configured. -/
def ofConfig (t : FileTree) (temporary : Path) (c : Config) :
    Except Error HelperScripts × FileTree :=
  if c.parserScript.isSome && c.requirementsScript.isSome then (pickBoth t c ⟨⟨""⟩, ⟨""⟩⟩, t)
  else
    let (written, t) := (writeInto (defaultDir temporary)).on t
    match written with
    | .ok builtIn => (pickBoth t c builtIn, t)
    | .error cause => (.error (.file cause), t)

end HelperScripts
end Testbench
