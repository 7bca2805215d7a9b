import Testbench.Listing
import Testbench.Display

/-!
# Lens — a run command above each test case

Lenses stand above the test cases of the last listing. A lens that stands on the line of an earlier
one of the same document is the same lens.

- `Lens`         : a lens;
- `Lens.provide` : the lenses of a document;
- `Lens.refresh` : have the host ask again.
-/

namespace Testbench

open Outline (Node)

/-- A number, the line above which the lens stands, counted from 0, and the test case. -/
structure Lens where
  id : Nat
  line : Nat
  testcase : Node
  deriving Inhabited

namespace Lens

def title : String := "Run QTA testcase"

/-- Number, line and title of a lens as a line of text. -/
def text (l : Lens) : String :=
  "L" ++ Display.padRight (Display.number (l.line + 1)) Display.lensColumns ++ " ▶ " ++ title
    ++ "  " ++ l.testcase.label

/-- The line above which the lens of a test case stands. -/
def lineOf (n : Node) : Nat := n.lines.first - 1

/-- The number of a line, if a lens stood there before. -/
def number? (known : List (Nat × Nat)) (line : Nat) : Option Nat :=
  (known.find? fun entry => entry.1 == line).map (·.2)

/-- Lenses for test cases in order, and the next free number. As with nodes, numbers do not run
out. -/
def assign (known : List (Nat × Nat)) (next : Nat) : List Node → List Lens × Nat
  | [] => ([], next)
  | n :: rest =>
    match number? known (lineOf n) with
    | some id =>
      let (lenses, next) := assign known next rest
      (⟨id, lineOf n, n⟩ :: lenses, next)
    | none =>
      let (lenses, after) := assign known (next + 1) rest
      (⟨next, lineOf n, n⟩ :: lenses, after)

/-- Numbers by line; of several lenses on a line the last one counts. -/
def numbersOf (lenses : List Lens) : List (Nat × Nat) :=
  lenses.reverse.map fun l => (l.line, l.id)

/-- The test cases of the last listing, if it was made for the document. -/
def testcases (w : World) (document : Path) : List Node :=
  match w.listing.last with
  | some listing =>
    if listing.file.same document then listing.nodes.filter Node.isTestcase else []
  | none => []

/-- The numbers that were given out for a document. -/
def known (s : LensState) (document : Path) : List (Nat × Nat) :=
  ((s.documents.find? fun entry => entry.1.same document).map (·.2)).getD []

/-- Renew the lenses of a document. -/
def renew (document : Path) : Act (List Lens) := do
  let w ← get
  let (lenses, next) := assign (known w.lenses document) w.lenses.nextId (testcases w document)
  let others := w.lenses.documents.filter fun entry => !entry.1.same document
  set { w with lenses := ⟨next, (document, numbersOf lenses) :: others⟩ }
  pure lenses

/-- The lenses of a document, once no listing is being made. There are none if lenses are turned off
or the document belongs to no project. -/
def provide (document : Path) : Work (List Lens) := do
  if !(← Act.world).setup.config.lenses then pure []
  else
    Listing.awaitIdle
    match Registry.find? (← Act.world) document with
    | none => pure []
    | some _ => renew document

/-- Have the host ask for lenses again, once no listing is being made. -/
def refresh : Work Unit := do
  Listing.awaitIdle
  Act.tell Host.lensesChanged

end Lens
end Testbench
