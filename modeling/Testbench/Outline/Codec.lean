import Testbench.Outline.Basic
import Testbench.Json.Record
import Testbench.Json.Printer

/-!
# Codec — outlines as JSON

`name` and `line` are required, every other field has a default, and lines are below 2³². A null
stands only for a missing docstring of the module. A class field is the array of its three parts.

- `Document.toJson`, `Document.text` : writing;
- `Document.decode?`                 : reading from any source;
- `Document.ofText?`                 : reading a whole text.
-/

namespace Testbench
namespace Outline

open Json (Source)

/-! ## Writing -/

def Step.toJson (s : Step) : Json :=
  .object [("name", .text s.name), ("docstring", .text s.docstring), ("line", .nat s.line),
    ("endline", .nat s.endline)]

def Function.toJson (f : Function) : Json :=
  .object [("name", .text f.name), ("docstring", .text f.docstring), ("line", .nat f.line),
    ("endline", .nat f.endline), ("steps", .array (f.steps.map Step.toJson))]

def Field.toJson (f : Field) : Json :=
  .array [.text f.name, .text f.value, .nat f.line]

def Control.toJson (c : Control) : Json :=
  .object [("name", .text c.name), ("line", .nat c.line), ("endline", .nat c.endline),
    ("attrs", .object c.attributes)]

def Class.toJson (c : Class) : Json :=
  .object [("name", .text c.name), ("docstring", .text c.docstring), ("line", .nat c.line),
    ("endline", .nat c.endline), ("is_testcase", .bool c.isTestcase), ("bases", .array c.bases),
    ("static_fields", .array (c.fields.map Field.toJson)),
    ("functions", .array (c.functions.map Function.toJson)),
    ("controls", .array (c.controls.map Control.toJson))]

def Document.toJson (d : Document) : Json :=
  let docstring := match d.docstring with
    | none => []
    | some s => [("docstring", .text s)]
  .object (docstring ++ [("classes", .array (d.classes.map Class.toJson)),
    ("functions", .array (d.functions.map Function.toJson)), ("errors", .array d.errors)])

def Document.text (d : Document) : String := d.toJson.compact

def Document.same (a b : Document) : Bool := a.toJson.same b.toJson

/-! ## Reading -/

variable {α : Type}

/-- A line number. -/
def line? (src : Source α) (x : α) : Option Nat := src.natBelow? Text.lineBound x

def Step.decode? (src : Source α) (x : α) : Option Step := do
  match ← src.slots? ["name", "docstring", "line", "endline"] x with
  | [name, docstring, line, endline] =>
    some {
      name := ← src.text? (← name)
      docstring := ← Source.orDefault? src.text? "" docstring
      line := ← line? src (← line)
      endline := ← Source.orDefault? (line? src) 0 endline }
  | _ => none

def Function.decode? (src : Source α) (x : α) : Option Function := do
  match ← src.slots? ["name", "docstring", "line", "endline", "steps"] x with
  | [name, docstring, line, endline, steps] =>
    some {
      name := ← src.text? (← name)
      docstring := ← Source.orDefault? src.text? "" docstring
      line := ← line? src (← line)
      endline := ← Source.orDefault? (line? src) 0 endline
      steps := ← Source.orDefault? (src.listOf? (Step.decode? src)) [] steps }
  | _ => none

def Field.decode? (src : Source α) (x : α) : Option Field := do
  match ← src.items? x with
  | [name, value, line] =>
    some { name := ← src.text? name, value := ← src.text? value, line := ← line? src line }
  | _ => none

def Control.decode? (src : Source α) (x : α) : Option Control := do
  match ← src.slots? ["name", "line", "endline", "attrs"] x with
  | [name, line, endline, attributes] =>
    some {
      name := ← src.text? (← name)
      line := ← line? src (← line)
      endline := ← Source.orDefault? (line? src) 0 endline
      attributes := ← Source.orDefault? src.object? [] attributes }
  | _ => none

def Class.decode? (src : Source α) (x : α) : Option Class := do
  match ← src.slots? ["name", "docstring", "line", "endline", "is_testcase", "bases",
      "static_fields", "functions", "controls"] x with
  | [name, docstring, line, endline, isTestcase, bases, fields, functions, controls] =>
    some {
      name := ← src.text? (← name)
      docstring := ← Source.orDefault? src.text? "" docstring
      line := ← line? src (← line)
      endline := ← Source.orDefault? (line? src) 0 endline
      isTestcase := ← Source.orDefault? src.bool? false isTestcase
      bases := ← Source.orDefault? (src.listOf? src.value?) [] bases
      fields := ← Source.orDefault? (src.listOf? (Field.decode? src)) [] fields
      functions := ← Source.orDefault? (src.listOf? (Function.decode? src)) [] functions
      controls := ← Source.orDefault? (src.listOf? (Control.decode? src)) [] controls }
  | _ => none

def Document.decode? (src : Source α) (x : α) : Option Document := do
  match ← src.slots? ["docstring", "classes", "functions", "errors"] x with
  | [docstring, classes, functions, errors] =>
    some {
      docstring := ← Source.orDefault? (src.nullable? src.text?) none docstring
      classes := ← Source.orDefault? (src.listOf? (Class.decode? src)) [] classes
      functions := ← Source.orDefault? (src.listOf? (Function.decode? src)) [] functions
      errors := ← Source.orDefault? (src.listOf? src.value?) [] errors }
  | _ => none

def Document.ofJson? (j : Json) : Option Document := Document.decode? Source.value j

/-- Read a whole text; parts of it that belong to no field need to be well spelled only. -/
def Document.ofText? (s : String) : Option Document := do
  Document.decode? Source.draft (Json.maxLevels, ← Json.Draft.read? s)

end Outline
end Testbench
