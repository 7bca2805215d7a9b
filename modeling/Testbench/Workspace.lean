import Testbench.Dispatch
import Testbench.Lens

/-!
# Workspace — folders, editors and commands

- `Workspace.openFolders`, `foldersChanged` : projects come and go;
- `editorChanged`, `documentSaved`          : events of the host;
- `Command`, `Workspace.execute`            : commands of a person;
- `Workspace.shutDown`                      : the end.
-/

namespace Testbench

open Outline (Node)

inductive Command where
  | updateStatus (text : String)
  | refreshTree (node : Option Node)
  | refreshLenses
  /-- Run a script, or the one in the editor. -/
  | run (target : Option Dispatch.Target)
  | runTestcase (node : Node)
  | runTestcaseHere
  | openFile (file : Path) (line : Option Nat)

namespace Workspace

/-- Open the folders that are test projects. -/
def openFolders : List Path → Act (List ProjectId)
  | [] => pure []
  | folder :: rest => do
    let opened ← Registry.add folder
    let others ← openFolders rest
    pure (opened.toList ++ others)

def removeFolders : List Path → Act Unit
  | [] => pure ()
  | folder :: rest => do
    let _ ← Registry.remove folder
    removeFolders rest

def foldersChanged (added removed : List Path) : Act Unit := do
  let _ ← openFolders added
  removeFolders removed

def editorChanged : Act Unit := do
  if (← Act.world).host.editor?.isSome then Listing.refresh none

def documentSaved : Act Unit := Listing.refresh none

/-- Carry out a command. A command that runs something tells the line it sent. -/
def execute : Command → Attempt (Option String)
  | .updateStatus text => do
    Act.tell (Host.updateStatus text)
    pure none
  | .refreshTree node => do
    Listing.refresh node
    pure none
  | .refreshLenses => do
    Attempt.ofWork Lens.refresh
    pure none
  | .run target => Dispatch.run target
  | .runTestcase node => Dispatch.runTestcase node
  | .runTestcaseHere => Dispatch.runTestcaseHere
  | .openFile file line => do
    Attempt.ofWork (Work.openFile file line)
    pure none

/-- Dispose of all projects, stop the clock and write out the cache. -/
def shutDown : Act Unit := do
  Registry.clear
  modify fun w => { w with flusher := none }
  let _ ← Caching.flush

end Workspace
end Testbench
