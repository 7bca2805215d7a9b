import Testbench.Outline.Basic
import Testbench.Path

/-!
# Node — the entries of the outline tree

Nodes are built from a document on every listing and numbered as they are built. Two nodes are the
same entry if they have the same number.

- `Node`, `Node.Kind` : an entry of the tree;
- `Numbering`         : building nodes with fresh numbers;
- `Node.children`     : controls, fields and methods of a class, steps of a function;
- `Node.weight`       : how many entries there are from one on down;
- `Node.preorder`     : an entry and all below it, as they are displayed.
-/

namespace Testbench
namespace Outline

inductive Node.Kind where
  | class (isTestcase : Bool) (fields : List Field) (functions : List Function)
      (controls : List Control)
  | field
  | control
  /-- A method carries the name of its class. -/
  | function (owner : Option String) (steps : List Step)
  | step
  deriving Repr, Inhabited

structure Node where
  id : Nat
  root : Path
  file : Path
  label : String
  docstring : String
  lines : LineRange
  collapsed : Bool
  kind : Node.Kind
  deriving Repr, Inhabited

/-- Computations that draw fresh numbers. There is no largest one: a count of 64 bits draws the same
numbers until 2^64 of them are used up. -/
abbrev Numbering := StateM Nat

namespace Node

/-! ## Building -/

def build (root file : Path) (label docstring : String) (lines : LineRange) (collapsed : Bool)
    (kind : Kind) : Numbering Node := do
  let id ← get
  set (id + 1)
  pure ⟨id, root, file, label, docstring, lines, collapsed, kind⟩

def ofClass (root file : Path) (c : Class) : Numbering Node :=
  build root file c.name c.docstring c.range true
    (.class c.isTestcase c.fields c.functions c.controls)

def ofFunction (root file : Path) (owner : Option String) (f : Function) : Numbering Node :=
  build root file f.name f.docstring f.range (!f.steps.isEmpty) (.function owner f.steps)

/-- The value of a field takes the place of a docstring. -/
def ofField (root file : Path) (f : Field) : Numbering Node :=
  build root file f.name f.value f.range false .field

/-- The type of a control takes the place of a docstring. -/
def ofControl (root file : Path) (c : Control) : Numbering Node :=
  build root file c.name (c.typeName?.getD "") c.range false .control

def ofStep (root file : Path) (s : Step) : Numbering Node :=
  build root file s.name s.docstring s.range false .step

/-- Classes, then functions. -/
def ofModule (root file : Path) (classes : List Class) (functions : List Function) :
    Numbering (List Node) := do
  let cs ← classes.mapM (ofClass root file)
  let fs ← functions.mapM (ofFunction root file none)
  pure (cs ++ fs)

def children (n : Node) : Numbering (List Node) :=
  match n.kind with
  | .class _ fields functions controls => do
    let cs ← controls.mapM (ofControl n.root n.file)
    let fs ← fields.mapM (ofField n.root n.file)
    let ms ← functions.mapM (ofFunction n.root n.file (some n.label))
    pure (cs ++ fs ++ ms)
  | .function _ steps => steps.mapM (ofStep n.root n.file)
  | .field | .control | .step => pure []

/-! ## Views -/

def isClass (n : Node) : Bool :=
  match n.kind with
  | .class .. => true
  | _ => false

def isTestcase (n : Node) : Bool :=
  match n.kind with
  | .class isTestcase .. => isTestcase
  | _ => false

/-- The class of a method. -/
def owner? (n : Node) : Option String :=
  match n.kind with
  | .function owner _ => owner
  | _ => none

/-- The line that opens when the entry is chosen. -/
def openLine (n : Node) : Nat := n.lines.first

/-- The tooltip once it is settled: the docstring, or the label if there is none. -/
def settledTooltip (n : Node) : String := if n.docstring.isEmpty then n.label else n.docstring

/-- How many entries there are from one on down, itself included. -/
def weight (n : Node) : Nat :=
  match n.kind with
  | .class _ fields functions controls =>
    functions.foldl (fun count f => count + 1 + f.steps.length)
      (1 + controls.length + fields.length)
  | .function _ steps => 1 + steps.length
  | .field | .control | .step => 1

/-- The levels that the tree has at most: class, method, step. -/
def depthLimit : Nat := 3

mutual

/-- An entry with its level, then the entries below it. -/
def preorder (level : Nat) : Nat → Node → Numbering (List (Nat × Node))
  | 0, n => pure [(level, n)]
  | fuel + 1, n => do
    let below ← preorderList (level + 1) fuel (← n.children)
    pure ((level, n) :: below)

def preorderList (level : Nat) : Nat → List Node → Numbering (List (Nat × Node))
  | _, [] => pure []
  | fuel, n :: rest => do
    let first ← preorder level fuel n
    let others ← preorderList level fuel rest
    pure (first ++ others)

end

end Node
end Outline
end Testbench
