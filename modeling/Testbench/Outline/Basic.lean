import Testbench.Json.Value
import Testbench.Text.Split

/-!
# Outline — what a Python module declares

A parser reports the classes and functions of one module as a `Document`. Every list keeps the order
of declaration.

- `LineRange`                        : an inclusive range of lines, counted from 1;
- `Step`, `Function`, `Field`, `Control`, `Class`, `Document` : the items of an outline;
- `Document.docstring?`              : the docstring of the module, a class, a function or a method.
-/

namespace Testbench
namespace Outline

/-! ## Lines -/

structure LineRange where
  first : Nat
  last : Nat
  deriving DecidableEq, Repr, Inhabited

namespace LineRange

def single (line : Nat) : LineRange := ⟨line, line⟩

/-- The range of an item whose last line may be missing or lie before its first. -/
def ofItem (line endline : Nat) : LineRange := ⟨line, max line endline⟩

def contains (r : LineRange) (line : Nat) : Bool := r.first ≤ line && line ≤ r.last

end LineRange

/-! ## Items -/

structure Step where
  name : String
  docstring : String
  line : Nat
  endline : Nat
  deriving DecidableEq, Repr, Inhabited

structure Function where
  name : String
  docstring : String
  line : Nat
  endline : Nat
  steps : List Step
  deriving DecidableEq, Repr, Inhabited

/-- An assignment in the body of a class. -/
structure Field where
  name : String
  value : String
  line : Nat
  deriving DecidableEq, Repr, Inhabited

/-- A control of a user interface, with free-form attributes. -/
structure Control where
  name : String
  line : Nat
  endline : Nat
  attributes : Json.Fields
  deriving Repr, Inhabited

structure Class where
  name : String
  docstring : String
  line : Nat
  endline : Nat
  isTestcase : Bool
  bases : List Json
  fields : List Field
  functions : List Function
  controls : List Control
  deriving Repr, Inhabited

/-- One module. A document with errors is the report of a parse that failed. -/
structure Document where
  docstring : Option String
  classes : List Class
  functions : List Function
  errors : List Json
  deriving Repr, Inhabited

def Document.empty : Document := ⟨none, [], [], []⟩

def Step.range (s : Step) : LineRange := .ofItem s.line s.endline

def Function.range (f : Function) : LineRange := .ofItem f.line f.endline

def Field.range (f : Field) : LineRange := .single f.line

def Control.range (c : Control) : LineRange := .ofItem c.line c.endline

def Class.range (c : Class) : LineRange := .ofItem c.line c.endline

/-- The second item of the attribute `type`, if that is a text. -/
def Control.typeName? (c : Control) : Option String := do
  let items ← (← Json.Fields.get? c.attributes "type").items?
  (← items[1]?).text?

/-! ## Looking things up -/

def Document.hasErrors (d : Document) : Bool := !d.errors.isEmpty

def Document.findClass? (d : Document) (name : String) : Option Class :=
  d.classes.find? fun c => c.name == name

def findFunction? (functions : List Function) (name : String) : Option Function :=
  functions.find? fun f => f.name == name

/-- The docstring of the module, or of an item named `Class`, `Class.method` or `function`. -/
def Document.docstring? (d : Document) : Option String → Option String
  | none => d.docstring
  | some item =>
    match Text.splitFirst? '.' item.toList with
    | some (className, functionName) => do
      let c ← d.findClass? (String.ofList className)
      let f ← findFunction? c.functions (String.ofList functionName)
      some f.docstring
    | none =>
      match d.findClass? item with
      | some c => some c.docstring
      | none => (findFunction? d.functions item).map (·.docstring)

/-- The functions of the module, or the methods of its first class of a name. -/
def Document.functionsOf (d : Document) : Option String → List Function
  | none => d.functions
  | some name => ((d.findClass? name).map (·.functions)).getD []

end Outline
end Testbench
