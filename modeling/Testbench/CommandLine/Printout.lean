import Testbench.CommandLine.Session
import Testbench.Lens

/-!
# Printout — the outline of a module and its lenses, printed

- `Session.printTree`    : one line for each entry, or the whole outline as JSON;
- `Session.printEntries` : entries still to be printed, each before what is below it;
- `Session.printLenses`  : one line for each lens.
-/

namespace Testbench
namespace CommandLine
namespace Session

open Outline (Node Document)

/-- Print the entries on a stack with all below them. Each entry is followed by what is below it.
`lines` bounds the number of lines. -/
def printEntries (docs : Bool) : (lines : Nat) → (stack : List (Nat × Node)) → Act Unit
  | 0, _ => pure ()
  | _, [] => pure ()
  | lines + 1, (level, n) :: stack => do
    print (Display.node n level docs)
    let below ← Listing.below n
    printEntries docs lines (below.map ((level + 1, ·)) ++ stack)

/-- Print all entries below some. -/
def printOutline (docs : Bool) (top : List Node) : Act Unit :=
  printEntries docs (top.foldl (fun n node => n + node.weight) 0) (top.map ((0, ·)))

/-- Spaces per level of printed JSON. -/
def jsonIndentation : Nat := 2

def printDocument (s : Session) : Work Unit := do
  let document ← Parsing.parse (.ofProject s.project) s.target
  print ((document.getD .empty).toJson.pretty jsonIndentation)

def printTree (s : Session) (docs json : Bool) : Step Unit := do
  s.requireCache
  s.focus none
  if json then Step.ofWork s.printDocument
  else
    let top ← Step.ofWork Listing.topLevel
    if top.isEmpty then print ("No classes or functions found in " ++ s.target.text)
    printOutline docs top
  close

def lensesDisabledMessage : String := "Code lenses are disabled (enable_code_lens = false)"

/-- Lenses stand above the entries of a fresh listing. -/
def listLenses (s : Session) : Work (List Lens) := do
  let _ ← Listing.topLevel
  Lens.provide s.target

def printLenses (s : Session) : Step Unit := do
  s.requireCache
  s.focus none
  if !(← Act.world).setup.config.lenses then print lensesDisabledMessage
  else
    let lenses ← Step.ofWork s.listLenses
    if lenses.isEmpty then print ("No test cases in " ++ s.target.text)
    printAll (lenses.map Lens.text)
  close

end Session
end CommandLine
end Testbench
