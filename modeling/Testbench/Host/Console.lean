import Testbench.Host.Dialog
import Testbench.Host.ConsoleTerminal
import Testbench.Shell.Run
import Testbench.Display

/-!
# Console — a host on a command line that asks nobody

Prompts are answered by an assumed answer, or not at all. The lines of its terminals are printed, or
fed to shells that run them when the terminal is closed. Which program its shells are is a parameter
of a console. A shell prints on the streams that it was started with, so what shells print is kept
apart from what the console prints.

- `Printed`      : what was printed;
- `ShellProgram` : what a shell makes of its lines;
- `Console`      : the host.
-/

namespace Testbench
namespace Host

/-- What a console has printed. -/
structure Printed where
  out : String
  err : String
  deriving Repr, Inhabited

namespace Printed

def none : Printed := ⟨"", ""⟩

def line (p : Printed) (s : String) : Printed := { p with out := p.out ++ s ++ "\n" }

def errorLine (p : Printed) (s : String) : Printed := { p with err := p.err ++ s ++ "\n" }

/-- First the one, then the other. -/
def append (p q : Printed) : Printed := ⟨p.out ++ q.out, p.err ++ q.err⟩

end Printed

/-- What a program prints that is fed lines in a directory, on its output and on its error stream,
and the files afterwards. -/
abbrev ShellProgram := FileTree → Path → List String → String × String × FileTree

structure Console where
  assumed : Option Answer
  mode : TerminalMode
  editor : Option Editor
  terminals : List ConsoleTerminal
  /-- What the console itself has printed. -/
  printed : Printed
  /-- What terminals start as their shell. -/
  shell : ShellProgram
  /-- What those shells have printed. -/
  shellPrinted : Printed
  deriving Inhabited

namespace Console

def fresh (assumed : Option Answer) (mode : TerminalMode)
    (shell : ShellProgram := Shell.runLines) : Console :=
  ⟨assumed, mode, none, [], Printed.none, shell, Printed.none⟩

def print (c : Console) (s : String) : Console := { c with printed := c.printed.line s }

def printError (c : Console) (s : String) : Console := { c with printed := c.printed.errorLine s }

/-! ## Dialogs -/

def answerLabel : Answer → String
  | .yes => "yes"
  | .no => "no"
  | .suppress => "don't ask again"
  | .dismissed => "dismissed"

def question (message answer : String) : String := "❓ " ++ message ++ " [" ++ answer ++ "]"

/-- The assumed answer on a prompt; one that is not offered there becomes a no. -/
def fit (choices : Choices) : Answer → Answer
  | .suppress => if choices == .yesNo then .no else .suppress
  | a => a

def prompt (c : Console) (message : String) (choices : Choices) : Answer × Console :=
  match c.assumed with
  | some assumed =>
    let a := fit choices assumed
    (a, c.printError (question message (answerLabel a)))
  | none => (.dismissed, c)

/-- A yes picks the first item. -/
def pick (c : Console) (message : String) (items : List String) : Option String × Console :=
  match c.assumed, items with
  | some .yes, first :: _ => (some first, c.printError (question message first))
  | _, _ => (none, c)

def showError (c : Console) (message : String) : Console := c.printError ("❌ " ++ message)

def showInfo (c : Console) (message : String) : Console := c.print ("ℹ️  " ++ message)

/-- A yes accepts the default, if it is valid. -/
def input (c : Console) (message default : String) (complaint : String → Option String) :
    Option String × Console :=
  match c.assumed with
  | some .yes => match complaint default with
    | some text => (none, c.showError text)
    | none => (some default, c.printError (question message default))
  | _ => (none, c)

def selectInterpreter (c : Console) : Console :=
  c.showInfo "Set \"python\" in .qta-runner.json to choose the interpreter used for new virtualenvs"

/-- Lines of an editor count from 1. -/
def setEditor (c : Console) (file : Path) (line : Nat) : Console :=
  { c with editor := some ⟨file, max line 1⟩ }

def openFile (c : Console) (file : Path) : Option Nat → Console
  | some line => c.print (file.text ++ ":" ++ Display.number line)
  | none => c.print file.text

/-! ## Terminals -/

def terminal? (c : Console) (name : String) : Option ConsoleTerminal :=
  c.terminals.find? fun t => t.name == name

/-- The console with a terminal of a name; an open one is kept. -/
def openTerminal (c : Console) (name : String) (cwd : Path) : Console :=
  match c.terminal? name with
  | some _ => c
  | none => { c with terminals := c.terminals ++ [.fresh name cwd c.mode] }

def setTerminal (c : Console) (terminal : ConsoleTerminal) : Console :=
  { c with terminals := c.terminals.map fun t => if t.name == terminal.name then terminal else t }

/-- Delivered lines are seen unless a shell gets them. -/
def printDelivered (c : Console) (lines : List String) : Console :=
  match c.mode with
  | .echo => lines.foldl print c
  | .shell => c

def send (c : Console) (name line : String) : Console :=
  match c.terminal? name with
  | some t =>
    let (lines, t) := t.send true line
    (c.setTerminal t).printDelivered lines
  | none => c

/-- Show a terminal; its shell starts in its directory, if that is one. -/
def showTerminal (c : Console) (files : FileTree) (name : String) : Console :=
  match c.terminal? name with
  | some t =>
    let (lines, t) := t.appear (files.isDir t.cwd) []
    (c.setTerminal t).printDelivered lines
  | none => c

/-- Close a terminal: its shell runs what it was fed. It may change any file, but not the directory
that others work in. -/
def closeTerminal (c : Console) (files : FileTree) (name : String) : Console × FileTree :=
  match c.terminal? name with
  | some t =>
    let (fed, closed) := t.close
    let c := c.setTerminal closed
    match fed with
    | none => (c, files)
    | some lines =>
      let (out, err, after) := c.shell files t.cwd lines
      ({ c with shellPrinted := c.shellPrinted.append ⟨out, err⟩ },
        { after with cwd := files.cwd })
  | none => (c, files)

def closeEach (c : Console) (files : FileTree) : List String → Console × FileTree
  | [] => (c, files)
  | name :: rest =>
    let (c, files) := c.closeTerminal files name
    closeEach c files rest

/-- Close all terminals. -/
def closeAll (c : Console) (files : FileTree) : Console × FileTree :=
  c.closeEach files (c.terminals.map (·.name))

end Console
end Host
end Testbench
