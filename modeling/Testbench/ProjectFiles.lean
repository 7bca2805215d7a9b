import Testbench.Files

/-!
# ProjectFiles — the files that make a folder a project

- `isTestProject`    : both marker files stand directly in the folder;
- `isPythonProject`  : a Python source lies somewhere below it;
- `modifiedMillis`   : the time that decides whether a parse is still fresh.
-/

namespace Testbench
namespace ProjectFiles

/-- The files that stand directly in the root of a test project. -/
def markers : List String := ["manage.py", "settings.py"]

def requirementsName : String := "requirements.txt"

/-- Holds the settings and the parse cache of a folder. -/
def settingsDirName : String := ".vscode"

def isTestProject (t : FileTree) (dir : Path) : Bool :=
  markers.all fun name => t.isFile (dir.joinText name)

def isPythonName (name : String) : Bool :=
  (Path.mk name).extension? == some "py"

/-- A link is not a source, and is not followed below the folder. -/
def isPythonProject (t : FileTree) (dir : Path) : Bool :=
  match t.statLink dir with
  | .ok (.file _) => dir.extension? == some "py"
  | _ => (t.tree dir).any fun (names, node) =>
      match node, names.getLast? with
      | .file _, some name => isPythonName name
      | _, _ => false

def hasRequirements (t : FileTree) (dir : Path) : Bool :=
  t.isFile (dir.joinText requirementsName)

/-- Milliseconds since the epoch, for times before it zero. -/
def millisOf (modified : Int) : Nat := modified.toNat / 1000000

def modifiedMillis (t : FileTree) (p : Path) : Except FileError Nat := do
  .ok (millisOf (← t.modified p))

/-- The bytes a folder's path has to exceed to hold a cache; this leaves out the roots of drives. -/
def shortestCacheRoot : Nat := 3

/-- The nearest folder above a file that holds a settings directory. -/
def cacheRoot? (t : FileTree) (file : Path) : Option Path :=
  ((file.ancestors.drop 1).takeWhile fun dir => dir.size > shortestCacheRoot).find? fun dir =>
    t.isDir (dir.joinText settingsDirName)

/-- The key of a file in the cache of a folder. -/
def cacheKey? (root file : Path) : Option String := do
  let below ← root.below? file
  some ("/".intercalate (Path.names below))

/-- The nearest folder at or above a path that is the root of a test project. -/
def projectRoot? (t : FileTree) (p : Path) : Option Path :=
  p.ancestors.find? (isTestProject t)

end ProjectFiles
end Testbench
