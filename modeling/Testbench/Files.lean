import Testbench.Path
import Testbench.Error

/-!
# Files — a tree of files

Nodes are filed under their location, the list of names from the root. A path is walked name by
name, through symbolic links, from the root or from the working directory.

- `FileNode`, `FileTree`          : files, directories and links; all of them;
- `FileTree.walk`             : where a path leads;
- `stat`, `isFile`, `isDir`   : what is there;
- `read`, `readText`, `write` : contents;
- `createDir`, `remove`, `link`, `setTime`, `list` : the rest;
- `FileM`                     : several changes in a row.
-/

namespace Testbench

/-- The names from the root. -/
abbrev Location := List String

/-- Times are in nanoseconds since the epoch. -/
structure FileData where
  content : ByteArray
  executable : Bool
  /-- Whether it may not be written over. -/
  readOnly : Bool
  modified : Int
  deriving Inhabited

inductive FileNode where
  | file (data : FileData)
  | dir
  | link (target : Path)
  deriving Inhabited

structure FileTree where
  /-- Where relative paths start; an absolute path. -/
  cwd : Path
  /-- The time given to what is written next. -/
  now : Int
  nodes : List (Location × FileNode)
  deriving Inhabited

namespace FileTree

/-! ## Nodes by location -/

def node? (t : FileTree) (here : Location) : Option FileNode :=
  if here.isEmpty then some .dir
  else (t.nodes.find? fun entry => entry.1 == here).map (·.2)

/-- Put a node at a location, in place of what is there. -/
def setNode (t : FileTree) (here : Location) (node : FileNode) : FileTree :=
  let replace : List (Location × FileNode) → List (Location × FileNode) :=
    fun nodes =>
      if nodes.any fun entry => entry.1 == here then
        nodes.map fun entry => if entry.1 == here then (here, node) else entry
      else nodes ++ [(here, node)]
  { t with nodes := replace t.nodes }

/-- Drop a location and everything below it. -/
def dropNode (t : FileTree) (here : Location) : FileTree :=
  { t with nodes := t.nodes.filter fun entry => !here.isPrefixOf entry.1 }

/-! ## Walking -/

/-- Where a path leads: to a node, or to a free name in a directory. -/
inductive Place where
  | found (here : Location) (node : FileNode)
  | free (dir : Location) (name : String) (slashed : Bool)

/-- Part of a walk: the end of it, or a link that has to be followed. -/
inductive Leg where
  | done (place : Place)
  | follow (start : Location) (segments : List String)

/-- Bytes that a name may have. -/
def nameLimit : Nat := 255

/-- Bytes that a path may have. -/
def pathLimit : Nat := 4095

/-- Links that one walk may follow. -/
def linkLimit : Nat := 40

/-- The segments of a path, empty ones included. -/
def segmentsOf (p : Path) : List String :=
  (Text.splitOn '/' p.chars).map String.ofList

/-- Walk until the end or until a link. The last name is looked through only if `through` is set. -/
def leg (t : FileTree) (through : Bool) (here : Location) : List String → Except FileError Leg
  | [] => match t.node? here with
    | some node => .ok (.done (.found here node))
    | none => .error .notFound
  | segment :: rest =>
    match t.node? here with
    | some .dir =>
      if segment == "" || segment == "." then leg t through here rest
      else if segment == ".." then leg t through here.dropLast rest
      else if segment.utf8ByteSize > nameLimit then .error .nameTooLong
      else
        let next := here ++ [segment]
        match t.node? next with
        | none =>
          if rest.all (· == "") then .ok (.done (.free here segment (!rest.isEmpty)))
          else .error .notFound
        | some (.link target) =>
          if rest.isEmpty && !through then .ok (.done (.found next (.link target)))
          else .ok (.follow (if target.isAbsolute then [] else here) (segmentsOf target ++ rest))
        | some _ => leg t through next rest
    | some _ => .error .notDirectory
    | none => .error .notFound

def walkFrom (t : FileTree) (through : Bool) : Nat → Location → List String → Except FileError Place
  | 0, _, _ => .error .tooManyLinks
  | links + 1, here, segments => do
    match ← t.leg through here segments with
    | .done place => .ok place
    | .follow start segments => walkFrom t through links start segments

/-- Where a path leads. -/
def walk (t : FileTree) (through : Bool) (p : Path) : Except FileError Place :=
  if p.chars.contains '\x00' then .error .nulInPath
  else if p.isEmpty then .error .notFound
  else if p.size > pathLimit then .error .nameTooLong
  else
    let segments := segmentsOf p
    t.walkFrom through (linkLimit + 1) []
      (if p.isAbsolute then segments else segmentsOf t.cwd ++ segments)

/-! ## What is there -/

/-- The node at the end of a path, links looked through. -/
def stat (t : FileTree) (p : Path) : Except FileError FileNode := do
  match ← t.walk true p with
  | .found _ node => .ok node
  | .free .. => .error .notFound

/-- The node at the end of a path, which may be a link. -/
def statLink (t : FileTree) (p : Path) : Except FileError FileNode := do
  match ← t.walk false p with
  | .found _ node => .ok node
  | .free .. => .error .notFound

def exists? (t : FileTree) (p : Path) : Bool := (t.stat p).isOk

def isFile (t : FileTree) (p : Path) : Bool :=
  match t.stat p with
  | .ok (.file _) => true
  | _ => false

def isDir (t : FileTree) (p : Path) : Bool :=
  match t.stat p with
  | .ok .dir => true
  | _ => false

/-- Nanoseconds since the epoch; a directory has none of its own. -/
def modified (t : FileTree) (p : Path) : Except FileError Int := do
  match ← t.stat p with
  | .file data => .ok data.modified
  | _ => .ok t.now

/-! ## Contents -/

def read (t : FileTree) (p : Path) : Except FileError ByteArray := do
  match ← t.stat p with
  | .file data => .ok data.content
  | _ => .error .isDirectory

def readText (t : FileTree) (p : Path) : Except FileError String := do
  match String.fromUTF8? (← t.read p) with
  | some s => .ok s
  | none => .error .notText

/-- Replace the content of a file, or make a new one. A write that is refused changes nothing, and
none breaks off halfway. -/
def write (t : FileTree) (p : Path) (content : ByteArray) : Except FileError FileTree := do
  match ← t.walk true p with
  | .found here (.file data) =>
    if data.readOnly then .error .accessDenied
    else .ok (t.setNode here (.file { data with content := content, modified := t.now }))
  | .found .. => .error .isDirectory
  | .free dir name slashed =>
    if slashed then .error .isDirectory
    else .ok (t.setNode (dir ++ [name]) (.file ⟨content, false, false, t.now⟩))

def writeText (t : FileTree) (p : Path) (s : String) : Except FileError FileTree :=
  t.write p s.toUTF8

/-! ## Directories, links and times -/

def createDir (t : FileTree) (p : Path) : Except FileError FileTree := do
  match ← t.walk false p with
  | .found .. => .error .exists
  | .free dir name _ => .ok (t.setNode (dir ++ [name]) .dir)

/-- Make a directory unless there is one. -/
def ensureDir (t : FileTree) (p : Path) : Except FileError FileTree :=
  match t.createDir p with
  | .ok t => .ok t
  | .error cause => if t.isDir p then .ok t else .error cause

/-- Remove a file, a link, or a directory with all it holds. -/
def remove (t : FileTree) (p : Path) : Except FileError FileTree := do
  match ← t.walk false p with
  | .found here _ => .ok (t.dropNode here)
  | .free .. => .error .notFound

/-- Make a link. -/
def link (t : FileTree) (p target : Path) : Except FileError FileTree := do
  match ← t.walk false p with
  | .found .. => .error .exists
  | .free dir name slashed =>
    if slashed then .error .notFound else .ok (t.setNode (dir ++ [name]) (.link target))

def updateFile (t : FileTree) (p : Path) (f : FileData → FileData) : Except FileError FileTree := do
  match ← t.walk true p with
  | .found here (.file data) => .ok (t.setNode here (.file (f data)))
  | .found .. => .ok t
  | .free .. => .error .notFound

def setTime (t : FileTree) (p : Path) (modified : Int) : Except FileError FileTree :=
  t.updateFile p fun data => { data with modified := modified }

def setExecutable (t : FileTree) (p : Path) : Except FileError FileTree :=
  t.updateFile p fun data => { data with executable := true }

/-- The locations below one, each as the names from there, with their nodes. -/
def below (t : FileTree) (here : Location) : List (List String × FileNode) :=
  t.nodes.filterMap fun entry =>
    match Path.afterStart? here entry.1 with
    | some (name :: rest) => some (name :: rest, entry.2)
    | _ => none

/-- What a directory holds, sorted by name. -/
def list (t : FileTree) (p : Path) : Except FileError (List (String × FileNode)) := do
  match ← t.walk true p with
  | .found here .dir =>
    let entries := (t.below here).filterMap fun (names, node) =>
      match names with
      | [name] => some (name, node)
      | _ => none
    .ok (entries.mergeSort fun a b => decide (a.1 ≤ b.1))
  | .found .. => .error .notDirectory
  | .free .. => .error .notFound

/-- The location a path leads to. -/
def location? (t : FileTree) (p : Path) : Option Location :=
  match t.walk true p with
  | .ok (.found here _) => some here
  | _ => none

/-- Everything below a directory. -/
def tree (t : FileTree) (p : Path) : List (List String × FileNode) :=
  match t.walk true p with
  | .ok (.found here .dir) => t.below here
  | _ => []

end FileTree

/-! ## Several changes in a row -/

/-- Changes to a tree. What was changed before a failure stays changed. -/
abbrev FileM := ExceptT FileError (StateM FileTree)

namespace FileM

/-- One change, which leaves the tree alone if it fails. -/
def change (f : FileTree → Except FileError FileTree) : FileM Unit := do
  match f (← get) with
  | .ok t => set t
  | .error cause => throw cause

/-- One look at the tree. -/
def look {α : Type} (f : FileTree → Except FileError α) : FileM α := do
  match f (← get) with
  | .ok x => pure x
  | .error cause => throw cause

/-- Make a directory unless there is one. -/
def ensureDir (p : Path) : FileM Unit := do
  match (← get).createDir p with
  | .ok t => set t
  | .error cause => if (← get).isDir p then pure () else throw cause

/-- Make the directories of a chain of paths, each the parent of the one before. -/
def createChain : List Path → FileM Unit
  | [] => pure ()
  | p :: parents => do
    if p.isEmpty then pure ()
    else match (← get).createDir p with
      | .ok t => set t
      | .error .notFound => do
        if parents.isEmpty then throw (.other "failed to create whole tree")
        else
          createChain parents
          ensureDir p
      | .error cause => if (← get).isDir p then pure () else throw cause

/-- Make a directory and those above it. -/
def createDirs (p : Path) : FileM Unit := createChain p.ancestors

def write (p : Path) (content : ByteArray) : FileM Unit := change fun t => t.write p content

def writeText (p : Path) (s : String) : FileM Unit := write p s.toUTF8

/-- Make the directory that a path lies in. -/
def createParent (p : Path) : FileM Unit :=
  match p.parent? with
  | some dir => if dir.isEmpty then pure () else createDirs dir
  | none => pure ()

/-- Write a file and make the directory it lies in. -/
def place (p : Path) (content : ByteArray) : FileM Unit := do
  createParent p
  write p content

/-- The outcome and the tree afterwards. -/
def on {α : Type} (m : FileM α) (t : FileTree) : Except FileError α × FileTree :=
  StateT.run (ExceptT.run m) t

end FileM

/-- An empty tree around a working directory. -/
def FileTree.start (cwd : Path) (now : Int) : FileTree :=
  ((FileM.createDirs cwd).on ⟨cwd, now, []⟩).2

end Testbench
