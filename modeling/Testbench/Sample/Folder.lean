import Testbench.Settings
import Testbench.Platform

/-!
# Folder — test projects laid out for a trial

- `Sample.Folder` : what a project is to hold;
- `layOut`        : write it.
-/

namespace Testbench
namespace Sample

structure Folder where
  root : Path
  /-- Whether there is a settings directory. -/
  settingsDir : Bool
  requirements : Option String
  settings : Option String
  /-- Names of virtual environments in the root. -/
  environments : List String
  platform : Platform
  /-- Further files, by their names below the root. -/
  files : List (String × String)
  deriving Repr, Inhabited

def placeEach : List (Path × String) → FileM Unit
  | [] => pure ()
  | (p, s) :: rest => do
    FileM.place p s.toUTF8
    placeEach rest

namespace Folder

/-- The files of a project in the order in which they are written. -/
def contents (f : Folder) : List (Path × String) :=
  let optional (p : Path) : Option String → List (Path × String)
    | some s => [(p, s)]
    | none => []
  optional (f.root.joinText ProjectFiles.requirementsName) f.requirements
    ++ optional (Settings.path f.root) f.settings
    ++ f.environments.map (fun name => (f.platform.activationMarker (f.root.joinText name), ""))
    ++ f.files.map fun (name, s) => (f.root.joinText name, s)

def layOut (f : Folder) : FileM Unit := do
  FileM.createDirs f.root
  FileM.writeText (f.root.joinText "manage.py") "# manage\n"
  FileM.writeText (f.root.joinText "settings.py") "# settings\n"
  if f.settingsDir then FileM.createDirs (Settings.dir f.root)
  placeEach f.contents

end Folder
end Sample
end Testbench
