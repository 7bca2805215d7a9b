import Testbench.Listing

/-!
# Dispatch — sending scripts and test cases to a project's terminal

Each command tells the line that it sent, or nothing if the person was told why none was sent.

- `Dispatch.Target`          : what is to be run;
- `Dispatch.dottedPath?`     : the name under which a test case is run;
- `Dispatch.run`             : run a script;
- `Dispatch.runTestcase`     : run a class;
- `Dispatch.runTestcaseHere` : run the class at the cursor.
-/

namespace Testbench
namespace Dispatch

open Outline (Node)

/-- What is to be run: a script, or the script of an entry. -/
inductive Target where
  | file (script : Path)
  | node (n : Node)

def Target.script : Target → Path
  | .file script => script
  | .node n => n.file

/-- Names of folders below the root, name of the module without its ending, name of the class. -/
def dottedPath? (root file : Path) (className : String) : Option String := do
  match (Path.names (← root.below? file)).reverse with
  | [] => none
  | last :: folders =>
    let module := ((Text.dropEnding? ".py".toList last.toList).map String.ofList).getD last
    some (".".intercalate (folders.reverse ++ [module, className]))

def noScriptMessage : String := "No script selected"

def notTestcaseMessage : String := "The class at the current line is not a valid test case"

/-- Show the terminal of a project and send a line to it. -/
def send (id : ProjectId) (line : String) : Act String := do
  let root ← Environment.rootOf id
  Terminal.appear root
  Terminal.send root line
  pure line

/-- Have a file saved if it has unsaved changes. Other work may go on until it is. -/
def saveIfUnsaved (file : Path) : Work Unit := do
  if (← Act.world).host.isUnsaved file then Work.save file

/-- Run a script in the project it belongs to. -/
def runFile (file : Path) : Attempt (Option String) := do
  Attempt.ofWork (saveIfUnsaved file)
  match Registry.find? (← Act.world) file with
  | none => throw (.projectNotFound file)
  | some id => do
    Environment.ensure id
    let w ← Act.world
    let line := TerminalLine.runScript (Environment.interpreter w (w.root id)) file
    let sent ← send id line
    pure (some sent)

/-- Run a script, else the one in the editor. -/
def run (target : Option Target) : Attempt (Option String) := do
  match target, (← Act.world).host.editor? with
  | some target, _ => runFile target.script
  | none, some editor => runFile editor.file
  | none, none => do
    Act.tell (Host.showInfo noScriptMessage)
    pure none

/-- The project of an entry: the one it was listed for, else the one its file belongs to. -/
def projectOf? (w : World) (n : Node) : Option ProjectId :=
  match Registry.get? w n.root with
  | some id => some id
  | none => Registry.find? w n.file

/-- Run a class. -/
def runTestcase (n : Node) : Attempt (Option String) := do
  if !n.isClass then do
    Act.tell (Host.showInfo notTestcaseMessage)
    pure none
  else match projectOf? (← Act.world) n with
    | none => throw (.projectNotFound n.file)
    | some id => do
      Environment.ensure id
      let w ← Act.world
      let root := w.root id
      match dottedPath? root n.file n.label with
      | none => throw (.other (n.file.text ++ " is not inside " ++ root.text))
      | some dotted => do
        let line := TerminalLine.runTestcase (Environment.interpreter w root) dotted
        let sent ← send id line
        pure (some sent)

/-- The class at a line: the first one that contains it. -/
def classAt? (nodes : List Node) (line : Nat) : Option Node :=
  nodes.find? fun n => n.isClass && n.lines.contains line

/-- The last listing if it was made for the file, else a new one. -/
def nodesFor (file : Path) : Work (List Node) := do
  match (← Act.world).listing.last with
  | some listing => if listing.file.same file then pure listing.nodes else Listing.topLevel
  | none => Listing.topLevel

/-- Run the class at the cursor, if it is a test case. -/
def runTestcaseHere : Attempt (Option String) := do
  match (← Act.world).host.editor? with
  | none => do
    Act.tell (Host.showInfo noScriptMessage)
    pure none
  | some editor => do
    Attempt.ofWork Listing.awaitIdle
    let nodes ← Attempt.ofWork (nodesFor editor.file)
    match (classAt? nodes editor.line).filter Node.isTestcase with
    | some n => runTestcase n
    | none => do
      Act.tell (Host.showInfo notTestcaseMessage)
      pure none

end Dispatch
end Testbench
