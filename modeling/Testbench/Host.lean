import Testbench.Host.Recorder
import Testbench.Host.Console

/-!
# Host — where a person sees and answers

The tool talks to a person through its host only: an editor that is simulated and recorded, or the
command line.

- `Host`  : one of the two;
- `prompt`, `pick`, `input`   : questions;
- `showError`, `showInfo`, …  : messages;
- `openTerminal`, `send`, `showTerminal`, `closeTerminal` : terminals, by name.
-/

namespace Testbench

inductive Host where
  | recorder (r : Host.Recorder)
  | console (c : Host.Console)
  deriving Inhabited

namespace Host

/-- Note an event on a recorder, or change a console. -/
def tell (event : Event) (change : Console → Console) : Host → Host
  | .recorder r => .recorder (r.record event)
  | .console c => .console (change c)

/-! ## Questions -/

def prompt (message : String) (choices : Choices) : Host → Answer × Host
  | .recorder r =>
    let (answer, r) := (r.record (.prompt message)).takePrompt
    (answer, .recorder r)
  | .console c =>
    let (answer, c) := c.prompt message choices
    (answer, .console c)

def pick (message : String) (items : List String) : Host → Option String × Host
  | .recorder r =>
    let (answer, r) := (r.record (.pick items)).takePick
    (answer, .recorder r)
  | .console c =>
    let (answer, c) := c.pick message items
    (answer, .console c)

/-- Ask for a text. One that draws a complaint is no answer, and the complaint is shown. -/
def input (message default : String) (complaint : String → Option String) :
    Host → Option String × Host
  | .recorder r =>
    let (answer, r) := (r.record (.input message)).takeInput
    match answer.bind complaint with
    | some text => (none, .recorder (r.record (.error text)))
    | none => (answer, .recorder r)
  | .console c =>
    let (answer, c) := c.input message default complaint
    (answer, .console c)

/-! ## Messages -/

def selectInterpreter (h : Host) : Host := h.tell .interpreterSelection Console.selectInterpreter

def showError (message : String) (h : Host) : Host := h.tell (.error message) (·.showError message)

def showInfo (message : String) (h : Host) : Host := h.tell (.info message) (·.showInfo message)

/-- A console has no status bar. -/
def updateStatus (text : String) (h : Host) : Host := h.tell (.status text) id

/-- A console shows no tree. -/
def treeChanged (label : Option String) (h : Host) : Host := h.tell (.treeChanged label) id

def lensesChanged (h : Host) : Host := h.tell .lensesChanged id

def openFile (file : Path) (line : Option Nat) (h : Host) : Host :=
  h.tell (.opened file line) (·.openFile file line)

/-! ## Editor -/

def editor? : Host → Option Editor
  | .recorder r => r.editor
  | .console c => c.editor

/-- A console runs what is on disk. -/
def isUnsaved (file : Path) : Host → Bool
  | .recorder r => r.isUnsaved file
  | .console _ => false

def save (file : Path) : Host → Host
  | .recorder r => .recorder (r.save file)
  | .console c => .console c

/-! ## Terminals -/

def openTerminal (name : String) (cwd : Path) : Host → Host
  | .recorder r => .recorder (r.openTerminal name cwd)
  | .console c => .console (c.openTerminal name cwd)

def send (name line : String) : Host → Host
  | .recorder r => .recorder (r.send name line)
  | .console c => .console (c.send name line)

def showTerminal (files : FileTree) (name : String) : Host → Host
  | .recorder r => .recorder (r.showTerminal name)
  | .console c => .console (c.showTerminal files name)

def closeTerminal (name : String) (files : FileTree) : Host → Host × FileTree
  | .recorder r => (.recorder (r.closeTerminal name), files)
  | .console c =>
    let (c, files) := c.closeTerminal files name
    (.console c, files)

end Host
end Testbench
