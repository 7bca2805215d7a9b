import Testbench.Environment

/-!
# Project — the life of an open project

- `Project.create`        : open a project, with its terminal;
- `Project.setUp`         : watch its files and see to its environment;
- `Project.startWatching` : watch its files;
- `Project.dispose`       : close it.
-/

namespace Testbench

/-! ## Watching folders -/

namespace Watch

/-- A path in a message, in quotes. -/
def quoted (p : Path) : String :=
  let escape (c : Char) : List Char :=
    if c == '"' || c == '\\' then ['\\', c] else [c]
  String.ofList (('"' :: p.chars.flatMap escape) ++ ['"'])

/-- A folder can be watched if it is there. -/
def start (t : FileTree) (root : Path) : Except Error Unit :=
  match t.stat root with
  | .ok _ => .ok ()
  | .error cause =>
    .error (.watch (cause.message ++ " about [" ++ quoted (t.cwd.join root) ++ "]"))

end Watch

namespace Project

/-- A project that was just opened. -/
def fresh (root : Path) : Project := ⟨root, .initial, false⟩

/-- Open a project. Its terminal finds modules from the root. -/
def create (root : Path) : Act ProjectId := do
  let w ← Act.world
  Terminal.make root
  Terminal.send root (TerminalLine.exportPythonPath w.setup.platform root)
  let id := w.projects.length
  modify fun w => { w with projects := w.projects ++ [fresh root] }
  pure id

/-- Watch the requirements and the settings of a project, unless that is done already or the root is
gone. -/
def startWatching (id : ProjectId) : Act Unit := do
  let w ← Act.world
  if !(w.project id).watching && (Watch.start w.files (w.root id)).isOk then
    modify (World.updateProject id fun p => { p with watching := true })

/-- Watch a project and see to its environment. Only projects with sources and requirements are
managed. -/
def setUp (id : ProjectId) : Attempt Unit := do
  let w ← Act.world
  let root := w.root id
  if ProjectFiles.isPythonProject w.files root && ProjectFiles.hasRequirements w.files root then do
    startWatching id
    Environment.ensure id
  else pure ()

/-- Write the default settings, over existing ones only if `force` is set. Tells whether they were
written. -/
def writeSettings (id : ProjectId) (force : Bool) : Act (Except Error Bool) := do
  let w ← Act.world
  Act.onFiles fun t => Settings.writeDefaults t (w.root id) w.setup.config.envDirName force

/-- Stop watching, write out what was parsed, and close the terminal. -/
def dispose (id : ProjectId) : Act Unit := do
  modify (World.updateProject id fun p => { p with watching := false })
  let root ← Environment.rootOf id
  Caching.evict root
  Terminal.close root

end Project
end Testbench
