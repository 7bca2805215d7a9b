import Testbench.Project

/-!
# Registry — the live projects of a workspace

Projects are known by their roots, whatever way these are spelled, and kept in the order in which
they were added.

- `Registry.absolute`       : the one spelling of a folder;
- `get?`, `find?`           : projects by root, and by a path below the root;
- `add`, `remove`, `clear`  : changes.
-/

namespace Testbench
namespace Registry

/-- The absolute path with `.` and `..` folded away. -/
def absolute (cwd p : Path) : Path := ((Path.absolute? cwd p).getD p).foldKeeping

/-- The live projects with their roots. -/
def entries (w : World) : List (ProjectId × Path) := w.registry.map fun id => (id, w.root id)

def roots (w : World) : List Path := (entries w).map (·.2)

def lookUp? (w : World) (holds : Path → Bool) : Option ProjectId :=
  ((entries w).find? fun entry => holds entry.2).map (·.1)

/-- The project of a root. -/
def get? (w : World) (root : Path) : Option ProjectId :=
  lookUp? w ((absolute w.files.cwd root).same ·)

/-- The first project whose root is at or above a path. -/
def find? (w : World) (p : Path) : Option ProjectId :=
  lookUp? w ((absolute w.files.cwd p).startsWith ·)

def isHidden (root : Path) : Bool :=
  root.fileName?.any fun name => name.toList.head? == some '.'

/-- Whether a folder can be added. -/
def admits (t : FileTree) (root : Path) : Bool :=
  !isHidden root && t.isDir root && ProjectFiles.isTestProject t root

/-- Add the project of a root, unless it is live already. Folders that are hidden or no test
projects are not added. -/
def add (root : Path) : Act (Option ProjectId) := do
  let w ← Act.world
  let root := absolute w.files.cwd root
  if !admits w.files root then pure none
  else match lookUp? w (root.same ·) with
    | some id => pure (some id)
    | none => do
      let id ← Project.create root
      modify fun w => { w with registry := w.registry ++ [id] }
      if w.setup.initOnOpen then Act.spawn (.setUp id)
      pure (some id)

/-- Dispose of the project of a root and forget it. Tells whether there was one. -/
def remove (root : Path) : Act Bool := do
  let w ← Act.world
  match get? w root with
  | some id => do
    modify fun w => { w with registry := w.registry.erase id }
    Project.dispose id
    pure true
  | none => pure false

def disposeEach : List ProjectId → Act Unit
  | [] => pure ()
  | id :: rest => do
    Project.dispose id
    disposeEach rest

/-- Dispose of all projects and forget them. -/
def clear : Act Unit := do
  let w ← Act.world
  set { w with registry := [] }
  disposeEach w.registry

end Registry
end Testbench
