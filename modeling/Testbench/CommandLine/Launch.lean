import Testbench.CommandLine.Session

/-!
# Launch — scripts and test cases run from the command line

- `Session.runScript`   : run the target;
- `Session.runTestcase` : run a test case of the target, by its name or by a line in it.
-/

namespace Testbench
namespace CommandLine
namespace Session

open Outline (Node)

def runScript (s : Session) : Step Unit := do
  let sent ← Step.ofAttempt (Workspace.execute (.run (some (.file s.target))))
  conclude sent

/-- The class of a name. -/
def classNamed? (nodes : List Node) (name : String) : Option Node :=
  nodes.find? fun n => n.isClass && n.label == name

def noTestcaseMessage : String :=
  "Give the line of a test case (FILE:LINE) or its name (--class)"

/-- The command that runs a test case. A name goes before a line. -/
def testCommand (s : Session) : Option String → Option Nat → Step Command
  | some name, _ => do
    let nodes ← Step.ofWork Listing.topLevel
    match classNamed? nodes name with
    | some n => pure (.runTestcase n)
    | none => abort ("No class named " ++ name ++ " in " ++ s.target.text)
  | none, some _ => pure .runTestcaseHere
  | none, none => abort noTestcaseMessage

def runTestcase (s : Session) (name : Option String) (line : Option Nat) : Step Unit := do
  s.focus line
  let command ← s.testCommand name line
  let sent ← Step.ofAttempt (Workspace.execute command)
  conclude sent

end Session
end CommandLine
end Testbench
