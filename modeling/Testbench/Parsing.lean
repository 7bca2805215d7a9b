import Testbench.Caching
import Testbench.Settings

/-!
# Parsing — outlines from the interpreter, through the cache

The outline of a file is printed by a helper script and kept in the cache of the nearest folder with
editor settings, under the time at which the file was last modified. A parser runs one script at a
time.

- `Parser.make`, `inTurn`        : whose interpreter, and whose turn;
- `Parsing.parse`                : the outline of a file;
- `Parsing.classes`, `functions`, `docstring` : parts of it.
-/

namespace Testbench

open Outline (Document)

namespace Environment

/-- The interpreter from a project's settings, else from the configuration, else the usual one. -/
def interpreter (w : World) (root : Path) : Path :=
  match Settings.pythonPath? w.files root with
  | some python => python
  | none => match w.setup.config.python with
    | some python => ⟨python⟩
    | none => w.setup.platform.defaultPython

end Environment

namespace Parser

def interpreter (p : Parser) (w : World) : Path :=
  match p with
  | .ofProject id => Environment.interpreter w (w.root id)
  | .fixed python _ _ => python

def script (p : Parser) (w : World) : Path :=
  match p with
  | .ofProject _ => w.setup.scripts.outline
  | .fixed _ script _ => script

/-- The run that prints the outline of a file. -/
def invocation (p : Parser) (w : World) (file : Path) : Invocation :=
  .here (p.interpreter w).text [(p.script w).text, file.text]

/-- Make a parser that uses one interpreter always. -/
def make (python script : Path) : Act Parser := do
  let w ← get
  set { w with nextTicket := w.nextTicket + 1 }
  pure (.fixed python script w.nextTicket)

/-! ## Turns -/

/-- Take a ticket for a parser. -/
def queueUp (p : Parser) : Act Nat := do
  let w ← get
  let ticket := w.nextTicket
  set (({ w with nextTicket := ticket + 1 } : World).updateTurns p (· ++ [ticket]))
  pure ticket

/-- Give a ticket back. -/
def leave (p : Parser) (ticket : Nat) (w : World) : World :=
  w.updateTurns p (·.filter (· != ticket))

/-- Do something in one's turn. -/
def inTurn {α : Type} (p : Parser) (body : Work α) : Work α := do
  let ticket ← queueUp p
  Task.holding (leave p ticket) do
    Task.pause (.turn p ticket)
    body

end Parser

namespace Parsing

/-- Where the outline of a file is cached: a folder and a key. -/
def address? (t : FileTree) (file : Path) : Option (Path × String) := do
  if !t.isFile file then none
  else
    let root ← ProjectFiles.cacheRoot? t file
    some (root, ← ProjectFiles.cacheKey? root file)

/-- Look a document up; a file whose time is unknown has none. -/
inductive Found where
  | unreadable
  | cached (d : Document)
  | missing (modified : Nat)

def lookUp (root : Path) (key : String) (file : Path) : Act Found := do
  let w ← get
  match ProjectFiles.modifiedMillis w.files file with
  | .error _ => pure .unreadable
  | .ok modified =>
    match ← Caching.lookUp root key modified with
    | some d => pure (.cached d)
    | none => pure (.missing modified)

def reportFailure (file : Path) (detail : String) : Act Unit := do
  Act.tell (Host.updateStatus ("Failed to parse " ++ file.text))
  Act.tell (Host.showError ("Failed to parse " ++ file.text ++ ": " ++ detail))

/-- What a finished run of the outline script comes to. -/
inductive Verdict where
  | failed (detail : String)
  | unreadable
  | syntaxErrors
  | parsed (d : Document)

def verdict : Except Error Outcome → Verdict
  | .error cause => .failed cause.message
  | .ok o =>
    if !o.success then .failed (Text.trim o.stderrText)
    else match Document.ofText? (Text.trim o.stdoutText) with
      | none => .unreadable
      | some d => if d.hasErrors then .syntaxErrors else .parsed d

/-- Keep a parsed document, or say why there is none. -/
def conclude (root : Path) (key : String) (file : Path) (modified : Nat) :
    Verdict → Act (Option Document)
  | .failed detail => do
    reportFailure file detail
    pure none
  | .unreadable => do
    Act.tell (Host.updateStatus ("Failed to read parse result of " ++ file.text))
    pure none
  | .syntaxErrors => do
    Act.tell (Host.updateStatus ("Syntax error in " ++ file.text))
    pure none
  | .parsed d => do
    Caching.keep root key modified d
    pure (some d)

/-- The cached document, else the one that a run of the script prints. -/
def fetch (p : Parser) (root : Path) (key : String) (file : Path) : Work (Option Document) := do
  match ← lookUp root key file with
  | .unreadable => pure none
  | .cached d => pure (some d)
  | .missing modified =>
    let i := p.invocation (← Act.world) file
    let outcome ← Work.run i
    conclude root key file modified (verdict outcome)

/-- The outline of a file. There is none for what is no file or lies under no folder with editor
settings. -/
def parse (p : Parser) (file : Path) : Work (Option Document) := do
  match address? (← Act.world).files file with
  | none => pure none
  | some (root, key) => p.inTurn (fetch p root key file)

def classes (p : Parser) (file : Path) : Work (List Outline.Class) := do
  let document ← parse p file
  pure ((document.map (·.classes)).getD [])

/-- The functions of the module, or the methods of a class. -/
def functions (p : Parser) (file : Path) (owner : Option String) :
    Work (List Outline.Function) := do
  let document ← parse p file
  pure ((document.map (·.functionsOf owner)).getD [])

def docstring (p : Parser) (file : Path) (item : Option String) : Work (Option String) := do
  let document ← parse p file
  pure (document.bind (·.docstring? item))

end Parsing
end Testbench
