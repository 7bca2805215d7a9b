import Testbench.CommandLine.Failure
import Testbench.Schedule

/-!
# Session — a workspace opened for one command

A command works on the one project that a path lies in.

- `Session`      : the project and the path;
- `Session.open` : from a path, with the configuration that holds there;
- `Step`         : work of a command;
- `print`, `focus`, `close` : what commands share.
-/

namespace Testbench
namespace CommandLine

open Host (Answer TerminalMode Console)

structure Session where
  project : ProjectId
  /-- The path as it is spelled from the root. -/
  target : Path
  deriving Repr, Inhabited

/-- Work of a command, which may fail. -/
abbrev Step := ExceptT Failure Work

namespace Step

/-- A step that cannot fail. -/
def ofWork {α : Type} (work : Work α) : Step α := ExceptT.lift work

/-- A step that may come to an error. -/
def ofAttempt {α : Type} (attempt : Attempt α) : Step (Except Error α) := ofWork attempt.run

def fail {α : Type} (reason : String) : Step α := throw (.because reason)

/-- The result of an attempt. -/
def ofResult {α : Type} : Except Error α → Step α
  | .ok a => pure a
  | .error cause => throw (.ofError cause)

/-- The result of an attempt at an activity. -/
def during {α : Type} (activity : String) : Except Error α → Step α
  | .ok a => pure a
  | .error cause => throw ((Failure.ofError cause).during activity)

end Step

/-- Print a line. -/
def print (line : String) : Act Unit := Act.tell fun
  | .console c => .console (c.print line)
  | h => h

/-- Print lines in order. -/
def printAll : List String → Act Unit
  | [] => pure ()
  | line :: rest => do
    print line
    printAll rest

namespace Session

/-! ## Opening -/

/-- Where the command works, and which answers it gives. -/
structure Terms where
  files : FileTree
  /-- The directory for temporary files. -/
  temporary : Path
  assumed : Option Answer
  mode : TerminalMode

/-- The path as spelled from the root, and the root of the test project it lies in. -/
def locate (t : FileTree) (p : Path) : Except Failure (Path × Path) :=
  match Path.absolute? t.cwd p with
  | none => .error ⟨["Failed to resolve " ++ p.text, "cannot make an empty path absolute"]⟩
  | some target => match ProjectFiles.projectRoot? t target with
    | some root => .ok (target, root)
    | none => .error (.because (target.text ++ " is not inside a QTA project"))

/-- A workspace on a console, in which projects are not set up when they are opened. -/
def workspace (terms : Terms) (files : FileTree) (config : Config) (scripts : HelperScripts) :
    World :=
  World.start files (.console (Console.fresh terms.assumed terms.mode)) .files
    ⟨config, .unix, scripts, false⟩

/-- Open the project of a root in a workspace. -/
def enter (target root : Path) (w : World) : Except Failure Session × World :=
  match (Workspace.openFolders [root]).run w with
  | (project :: _, w) => (.ok ⟨project, target⟩, w)
  | ([], w) => (.error (.because ("Failed to open project " ++ root.text)), w)

/-- Open a session on a path. The workspace is there whatever comes of it. -/
def «open» (terms : Terms) (p : Path) : Except Failure Session × World :=
  let closed (files : FileTree) : World := workspace terms files .default default
  match locate terms.files p with
  | .error failure => (.error failure, closed terms.files)
  | .ok (target, root) => match Config.discover terms.files root with
    | .error cause =>
      (.error ((Failure.ofError cause).during "Failed to load configuration"), closed terms.files)
    | .ok config => match HelperScripts.ofConfig terms.files terms.temporary config with
      | (.error cause, files) =>
        (.error ((Failure.ofError cause).during "Failed to set up the workspace"), closed files)
      | (.ok scripts, files) => enter target root (workspace terms files config scripts)

/-! ## During a session -/

def root (s : Session) : Act Path := do pure ((← Act.world).root s.project)

/-- Look at a line of the target, else at the first. -/
def focus (s : Session) (line : Option Nat) : Act Unit := Act.tell fun
  | .console c => .console (c.setEditor s.target (line.getD 1))
  | h => h

/-- Write out the cache, and wait for the shells of the terminals. -/
def close : Act Unit := Workspace.shutDown

/-- Close the session and fail. -/
def abort {α : Type} (reason : String) : Step α := do
  close
  Step.fail reason

/-- Commands that list an outline need a folder to cache it in. -/
def requireCache (s : Session) : Step Unit := do
  let w ← Act.world
  if (ProjectFiles.cacheRoot? w.files s.target).isNone then
    abort (s.target.text ++ " is outside any project cache root (no "
      ++ ProjectFiles.settingsDirName ++ " folder). Run \x60qta-runner init "
      ++ (w.root s.project).text ++ "\x60 first")

/-- A command that sends a line has to have sent one. -/
def conclude (sent : Except Error (Option String)) : Step Unit := do
  close
  match ← Step.ofResult sent with
  | some _ => pure ()
  | none => Step.fail "Nothing was run"

end Session
end CommandLine
end Testbench
