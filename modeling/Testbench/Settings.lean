import Testbench.ProjectFiles
import Testbench.Json.Draft
import Testbench.Json.Printer

/-!
# Settings — the editor settings of a folder

The settings are one JSON object in `.vscode/settings.json`. Writing keeps what is already there.

- `Settings.read`             : the object, empty if there is no file;
- `Settings.text?`            : one setting, if it is a text that is not empty;
- `Settings.merge`            : set some of the settings;
- `Settings.writeDefaults`    : the settings of a fresh test project;
- `Settings.expand`           : editor variables replaced;
- `Settings.pythonPath?`      : the interpreter that the settings name.
-/

namespace Testbench
namespace Settings

def fileName : String := "settings.json"

def pythonPathKey : String := "python.pythonPath"

def pipSourceKey : String := "qta.pipSource"

def dir (root : Path) : Path := root.joinText ProjectFiles.settingsDirName

def path (root : Path) : Path := (dir root).joinText fileName

def exists? (t : FileTree) (root : Path) : Bool := t.isFile (path root)

/-! ## Reading and writing -/

def read (t : FileTree) (root : Path) : Except Error Json.Fields :=
  if !t.exists? (path root) then .ok []
  else match t.readText (path root) with
    | .error cause => .error (.file cause)
    | .ok s => match Json.read? s with
      | none => .error .malformedJson
      | some (.object fields) => .ok fields
      | some _ => .error (.config (.notAnObject (path root)))

/-- A text setting. Settings that cannot be read count as unset. -/
def text? (t : FileTree) (root : Path) (key : String) : Option String :=
  match read t root with
  | .ok fields => ((Json.Fields.get? fields key).bind Json.text?).filter (!·.isEmpty)
  | .error _ => none

/-- Spaces per level of the file. -/
def indentation : Nat := 4

def write (root : Path) (fields : Json.Fields) : FileM Unit := do
  FileM.createDirs (dir root)
  FileM.writeText (path root) ((Json.object fields).pretty indentation)

/-- Set some fields and keep the others. -/
def merge (t : FileTree) (root : Path) (updates : Json.Fields) : Except Error Unit × FileTree :=
  match read t root with
  | .error cause => (.error cause, t)
  | .ok fields =>
    let (outcome, t) := (write root (fields.extend updates)).on t
    (liftFile outcome, t)

def set (t : FileTree) (root : Path) (key : String) (value : Json) :
    Except Error Unit × FileTree :=
  merge t root [(key, value)]

/-! ## Defaults -/

/-- What a file browser leaves out. -/
def excludedPatterns : List String :=
  ["**/.git", "**/.svn", "**/.hg", "**/CVS", "**/.DS_Store", ".settings", "**/*.pyc"]

def workspaceFolderVariable : String := "$\x7bworkspaceFolder\x7d"

def defaults (envDirName : String) : Json.Fields :=
  let patterns := excludedPatterns ++ ["**/" ++ envDirName]
  Json.Fields.ofList [
    ("python.autoComplete.extraPaths", Json.texts [workspaceFolderVariable]),
    ("python.autoComplete.preloadModules", .array []),
    ("files.exclude", .object (Json.Fields.ofList (patterns.map fun s => (s, .bool true)))),
    ("python.linting.enabled", .bool true)]

/-- Write the defaults, over an existing file only if `force` is set. Tells whether they were
written. -/
def writeDefaults (t : FileTree) (root : Path) (envDirName : String) (force : Bool) :
    Except Error Bool × FileTree :=
  if exists? t root && !force then (.ok false, t)
  else
    let (outcome, t) := (write root (defaults envDirName)).on t
    ((liftFile outcome).map fun _ => true, t)

/-! ## Variables -/

/-- The name of the folder itself, empty if it has none. -/
def folderName (root : Path) : String := root.fileName?.getD ""

def variableValue (root : Path) (name : String) : String :=
  if name == "workspaceRootFolderName" || name == "workspaceFolderBasename" then folderName root
  else root.text

/-- The name of a variable up to its closing brace, and what follows; a name has no line feed. -/
def variableName? : List Char → Option (List Char × List Char)
  | [] => none
  | c :: rest =>
    if c == '\x7d' then some ([], rest)
    else if c == '\n' then none
    else (variableName? rest).map fun (name, after) => (c :: name, after)

theorem length_of_variableName? {cs name after : List Char}
    (h : variableName? cs = some (name, after)) : after.length < cs.length := by
  induction cs generalizing name with
  | nil => simp [variableName?] at h
  | cons c rest ih =>
    unfold variableName? at h
    split at h
    · cases h; simp
    · split at h
      · cases h
      · obtain ⟨⟨n, a⟩, hn, hp⟩ := Option.map_eq_some_iff.1 h
        cases hp
        exact Nat.lt_succ_of_lt (ih hn)

/-- Replace every variable from the left; what is put in is not looked at again. -/
def expandChars (root : Path) (cs : List Char) : List Char :=
  match cs with
  | [] => []
  | '$' :: '\x7b' :: rest =>
    match h : variableName? rest with
    | some (name, after) =>
      have : after.length < rest.length + 1 + 1 :=
        Nat.lt_succ_of_lt (Nat.lt_succ_of_lt (length_of_variableName? h))
      (variableValue root (String.ofList name)).toList ++ expandChars root after
    | none => '$' :: expandChars root ('\x7b' :: rest)
  | c :: rest => c :: expandChars root rest
termination_by cs.length

def expand (root : Path) (value : String) : String :=
  String.ofList (expandChars root value.toList)

/-! ## The interpreter -/

/-- The interpreter that the settings name, read from inside the folder. -/
def pythonPath? (t : FileTree) (root : Path) : Option Path := do
  let resolved : Path := ⟨expand root (← text? t root pythonPathKey)⟩
  some (if resolved.isAbsolute then resolved else (root.join resolved).fold)

end Settings
end Testbench
