import Testbench.Proofs.Json.Reading
import Testbench.Proofs.Json.Schema
import Testbench.Proofs.Outline.Codec

/-!
# Format — which values are documents

The schema of a document says which of its fields have to be there and what each of them is. A value
is read as a document unless it has a fault, and the document that was read is written as one value,
from which it is read again.

- `Document.schema`      : what a document is expected to be;
- `Document.value`       : the value that a document is written as;
- `follows_document`     : what is rejected as a document;
- `Document.codec_exact` : writing and reading, in either order.
-/

namespace Testbench
namespace Outline

open Json (Source Schema Part Fault Follows)
open Json.Source (follows_value follows_text follows_bool follows_object follows_natBelow
  follows_nullable follows_list follows_tuple follows_record)

/-! ## Schemas -/

def textSchema : Schema := .plain .text

def lineSchema : Schema := .natBelow Text.lineBound

def Step.schema : Schema :=
  .record [.must "name" textSchema, .may "docstring" textSchema, .must "line" lineSchema,
    .may "endline" lineSchema]

def Function.schema : Schema :=
  .record [.must "name" textSchema, .may "docstring" textSchema, .must "line" lineSchema,
    .may "endline" lineSchema, .may "steps" (.list Step.schema)]

def Field.schema : Schema := .tuple [textSchema, textSchema, lineSchema]

def Control.schema : Schema :=
  .record [.must "name" textSchema, .must "line" lineSchema, .may "endline" lineSchema,
    .may "attrs" (.plain .object)]

def Class.schema : Schema :=
  .record [.must "name" textSchema, .may "docstring" textSchema, .must "line" lineSchema,
    .may "endline" lineSchema, .may "is_testcase" (.plain .bool),
    .may "bases" (.list (.plain .anything)), .may "static_fields" (.list Field.schema),
    .may "functions" (.list Function.schema), .may "controls" (.list Control.schema)]

def Document.schema : Schema :=
  .record [.may "docstring" (.orNull textSchema), .may "classes" (.list Class.schema),
    .may "functions" (.list Function.schema), .may "errors" (.list (.plain .anything))]

/-! ## What is rejected -/

theorem follows_line : Follows (line? Source.value) lineSchema :=
  follows_natBelow Text.lineBound

theorem follows_step : Follows (Step.decode? Source.value) Step.schema := by
  refine follows_record rfl fun slots hlength => ?_
  match slots, hlength with
  | [name, docstring, line, endline], _ =>
      exact .must follows_text fun _ => .may follows_text fun _ => .must follows_line fun _ =>
        .may follows_line fun _ => .done _

theorem follows_function : Follows (Function.decode? Source.value) Function.schema := by
  refine follows_record rfl fun slots hlength => ?_
  match slots, hlength with
  | [name, docstring, line, endline, steps], _ =>
      exact .must follows_text fun _ => .may follows_text fun _ => .must follows_line fun _ =>
        .may follows_line fun _ => .may (follows_list follows_step) fun _ => .done _

theorem follows_field : Follows (Field.decode? Source.value) Field.schema := by
  refine follows_tuple (fun items hcount => ?_) fun items hlength hordered => ?_
  · split
    · exact absurd rfl hcount
    · rfl
  · match items, hlength with
    | [name, value, line], _ =>
        have hname := follows_text name (hordered _ (by simp))
        have hvalue := follows_text value (hordered _ (by simp))
        have hline := follows_line line (hordered _ (by simp))
        exact .bind hname fun _ => .bind hvalue fun _ => .bind hline fun _ => .done _

theorem follows_control : Follows (Control.decode? Source.value) Control.schema := by
  refine follows_record rfl fun slots hlength => ?_
  match slots, hlength with
  | [name, line, endline, attributes], _ =>
      exact .must follows_text fun _ => .must follows_line fun _ => .may follows_line fun _ =>
        .may follows_object fun _ => .done _

theorem follows_class : Follows (Class.decode? Source.value) Class.schema := by
  refine follows_record rfl fun slots hlength => ?_
  match slots, hlength with
  | [name, docstring, line, endline, isTestcase, bases, fields, functions, controls], _ =>
      exact .must follows_text fun _ => .may follows_text fun _ => .must follows_line fun _ =>
        .may follows_line fun _ => .may follows_bool fun _ =>
        .may (follows_list follows_value) fun _ => .may (follows_list follows_field) fun _ =>
        .may (follows_list follows_function) fun _ =>
        .may (follows_list follows_control) fun _ => .done _

theorem follows_document : Follows Document.ofJson? Document.schema := by
  refine follows_record rfl fun slots hlength => ?_
  match slots, hlength with
  | [docstring, classes, functions, errors], _ =>
      exact .may (follows_nullable follows_text) fun _ =>
        .may (follows_list follows_class) fun _ => .may (follows_list follows_function) fun _ =>
        .may (follows_list follows_value) fun _ => .done _

/-! ## Writing and reading -/

/-- A document as a value, with the fields of all objects sorted. -/
def Document.value (d : Document) : Json := d.toJson.arrange

theorem Document.isOrdered_value (d : Document) : d.value.IsOrdered := Json.isOrdered_arrange _

/-- A document is read from the value that it is written as. Whatever value a document was read
from, it is written as a value that stays as it is when it is written, and from which it is read
again. And a value is rejected exactly if it has a fault. -/
theorem Document.codec_exact :
    (∀ d : Document, d.IsSound → Document.ofJson? d.value = some d) ∧
    (∀ (j : Json) (d : Document), j.IsOrdered → Document.ofJson? j = some d →
      d.IsSound ∧ Document.ofJson? d.value = some d ∧ d.value.arrange = d.value ∧
      (Document.ofJson? d.value).map Document.value = some d.value) ∧
    ∀ j : Json, j.IsOrdered → (Document.ofJson? j = none ↔ Fault Document.schema j) := by
  refine ⟨fun d => Document.ofJson?_arrange, fun j d hj h => ?_, follows_document⟩
  have hsound := Document.ofJson?_sound hj h
  have hread : Document.ofJson? d.value = some d := Document.ofJson?_arrange hsound
  exact ⟨hsound, hread, Json.arrange_eq_self _ d.isOrdered_value, by rw [hread]; rfl⟩

/-- A class as a short array, and a function as an object with a field that is not known. -/
def login : Json :=
  .object [("classes", .array [.array [.text "LoginTest", .text "checks login", .nat 10]]),
    ("docstring", .null),
    ("functions", .array [.object [("line", .nat 22), ("name", .text "helper"), ("tags", .null)]])]

/-- The array of the class ends before its line. -/
def unplaced : Json :=
  .object [("classes", .array [.array [.text "LoginTest", .text "checks login"]])]

theorem codec_exact_login : ∃ d, Document.ofJson? login = some d ∧
    d.classes.map (fun c => (c.name, c.line, c.endline)) = [("LoginTest", 10, 0)] ∧
    Document.ofJson? d.value = some d ∧ d.value.arrange = d.value ∧
    Document.ofJson? unplaced = none := by
  have hread : Document.ofJson? login = some ⟨none,
      [⟨"LoginTest", "checks login", 10, 0, false, [], [], [], []⟩], [⟨"helper", "", 22, 0, []⟩],
      []⟩ := rfl
  have hclass : Fault Class.schema (.array [.text "LoginTest", .text "checks login"]) :=
    @Fault.short _ _ 2 (.must "line" lineSchema) rfl rfl (by decide)
  have hfault : Fault Document.schema unplaced :=
    .field (List.mem_cons_of_mem _ List.mem_cons_self) List.mem_cons_self
      (.item List.mem_cons_self hclass)
  rcases Document.codec_exact with ⟨-, hwrite, hreject⟩
  rcases hwrite login _ (by decide) hread with ⟨-, hagain, hsame, -⟩
  exact ⟨_, hread, rfl, hagain, hsame, (hreject unplaced (by decide)).2 hfault⟩

end Outline
end Testbench
