import Testbench.Outline.Node
import Mathlib.Data.List.Forall2

/-!
# Tree — the items of a document and the entries that depict them

A document lists its items in order, each with what it declares inside right after it. An entry of
the tree depicts an item: it shows what the item says, and its children depict what is inside.

- `Item`, `Item.parts`    : what a document declares, and what is declared inside;
- `Document.items`        : all items in preorder, with their levels;
- `Depicts`               : an entry shows what an item says;
- `Draws`                 : building entries for some items, with the next free numbers;
- `draws_ofModule`, `Depicts.draws_children` : the top level, and what is below an entry.
-/

namespace Testbench
namespace Outline

/-! ## Items -/

/-- One thing that a document declares. -/
inductive Item where
  | class (c : Class)
  | control (c : Control)
  | field (f : Field)
  /-- A method goes with the name of its class. -/
  | function (owner : Option String) (f : Function)
  | step (s : Step)

/-- The text in the second place of the attribute `type`, empty if there is none. -/
def Control.typeText (c : Control) : String :=
  match Json.Fields.get? c.attributes "type" with
  | some (.array (_ :: .text s :: _)) => s
  | _ => ""

theorem Control.typeName?_getD (c : Control) : c.typeName?.getD "" = c.typeText := by
  unfold typeName? typeText
  cases Json.Fields.get? c.attributes "type" with
  | none => rfl
  | some j =>
      cases j with
      | array items =>
          match items with
          | [] => rfl
          | [_] => rfl
          | _ :: second :: _ => cases second <;> rfl
      | _ => rfl

namespace Item

def name : Item → String
  | .class c => c.name
  | .control c => c.name
  | .field f => f.name
  | .function _ f => f.name
  | .step s => s.name

/-- A field is explained by its value, a control by its type. -/
def docstring : Item → String
  | .class c => c.docstring
  | .control c => c.typeText
  | .field f => f.value
  | .function _ f => f.docstring
  | .step s => s.docstring

def line : Item → Nat
  | .class c => c.line
  | .control c => c.line
  | .field f => f.line
  | .function _ f => f.line
  | .step s => s.line

/-- The last line as it is declared. A field has but one. -/
def endline : Item → Nat
  | .class c => c.endline
  | .control c => c.endline
  | .field f => f.line
  | .function _ f => f.endline
  | .step s => s.endline

def owner? : Item → Option String
  | .function owner _ => owner
  | _ => none

/-- Whether an entry for the item can be expanded. -/
def opens : Item → Bool
  | .class _ => true
  | .function _ f => !f.steps.isEmpty
  | .control _ | .field _ | .step _ => false

def kind : Item → Node.Kind
  | .class c => .class c.isTestcase c.fields c.functions c.controls
  | .control _ => .control
  | .field _ => .field
  | .function owner f => .function owner f.steps
  | .step _ => .step

/-- What is declared right inside an item. -/
def parts : Item → List Item
  | .class c =>
    c.controls.map .control ++ c.fields.map .field ++ c.functions.map (.function (some c.name))
  | .function _ f => f.steps.map .step
  | .control _ | .field _ | .step _ => []

end Item

/-! ### Preorder -/

/-- A function, then its steps. -/
def Function.items (level : Nat) (owner : Option String) (f : Function) : List (Nat × Item) :=
  (level, .function owner f) :: f.steps.map fun s => (level + 1, .step s)

/-- A class, then its controls, its fields, and its methods with their steps. -/
def Class.items (level : Nat) (c : Class) : List (Nat × Item) :=
  (level, .class c) ::
    (c.controls.map (fun k => (level + 1, .control k)) ++
      c.fields.map (fun f => (level + 1, .field f)) ++
      c.functions.flatMap (Function.items (level + 1) (some c.name)))

/-- All items with their levels: the classes, then the functions of the module. -/
def Document.items (d : Document) : List (Nat × Item) :=
  d.classes.flatMap (Class.items 0) ++ d.functions.flatMap (Function.items 0 none)

/-- The items that are declared in the module itself. -/
def Document.tops (d : Document) : List Item :=
  d.classes.map .class ++ d.functions.map (.function none)

/-- An item and all that is inside. -/
def Item.preorder (level : Nat) : Item → List (Nat × Item)
  | .class c => c.items level
  | .function owner f => f.items level owner
  | x => [(level, x)]

theorem Item.flatMap_preorder_of_leaf {α : Type} {make : α → Item} {level : Nat}
    (h : ∀ a, (make a).preorder level = [(level, make a)]) (as : List α) :
    (as.map make).flatMap (Item.preorder level) = as.map fun a => (level, make a) := by
  rw [List.flatMap_map, List.map_eq_flatMap]
  simp only [h]

theorem Item.preorder_eq (level : Nat) (x : Item) :
    x.preorder level = (level, x) :: x.parts.flatMap (Item.preorder (level + 1)) := by
  cases x with
  | «class» c =>
      rw [parts, List.flatMap_append, List.flatMap_append, flatMap_preorder_of_leaf fun _ => rfl,
        flatMap_preorder_of_leaf fun _ => rfl, List.flatMap_map]
      rfl
  | function owner f =>
      rw [parts, flatMap_preorder_of_leaf fun _ => rfl]
      rfl
  | control c => rfl
  | field f => rfl
  | step s => rfl

theorem Document.items_eq (d : Document) : d.items = d.tops.flatMap (Item.preorder 0) := by
  rw [tops, List.flatMap_append, List.flatMap_map, List.flatMap_map]
  rfl

/-! ## Entries that depict items -/

/-- An entry shows what an item of a file says. -/
structure Depicts (root file : Path) (x : Item) (n : Node) : Prop where
  label : n.label = x.name
  docstring : n.docstring = x.docstring
  first : n.lines.first = x.line
  last : n.lines.last = max x.line x.endline
  openLine : n.openLine = x.line
  root : n.root = root
  file : n.file = file
  kind : n.kind = x.kind
  owner : n.owner? = x.owner?
  collapsed : n.collapsed = x.opens

/-- Building gives entries for the items in order, and takes one number after the other. -/
def Draws (root file : Path) (xs : List Item) (build : Numbering (List Node)) : Prop :=
  ∀ next, ∃ nodes, build.run next = (nodes, next + xs.length) ∧
    List.Forall₂ (Depicts root file) xs nodes ∧ nodes.map Node.id = List.range' next xs.length

/-- Building gives one entry, with the next number. -/
def DrawsOne (root file : Path) (x : Item) (build : Numbering Node) : Prop :=
  ∀ next, ∃ node, build.run next = (node, next + 1) ∧ Depicts root file x node ∧ node.id = next

section Drawing

variable {root file : Path}

theorem drawsOne_ofClass (c : Class) : DrawsOne root file (.class c) (Node.ofClass root file c) :=
  fun _ => ⟨_, rfl, ⟨rfl, rfl, rfl, rfl, rfl, rfl, rfl, rfl, rfl, rfl⟩, rfl⟩

theorem drawsOne_ofFunction (owner : Option String) (f : Function) :
    DrawsOne root file (.function owner f) (Node.ofFunction root file owner f) :=
  fun _ => ⟨_, rfl, ⟨rfl, rfl, rfl, rfl, rfl, rfl, rfl, rfl, rfl, rfl⟩, rfl⟩

theorem drawsOne_ofField (f : Field) : DrawsOne root file (.field f) (Node.ofField root file f) :=
  fun _ => ⟨_, rfl, ⟨rfl, rfl, rfl, (Nat.max_self _).symm, rfl, rfl, rfl, rfl, rfl, rfl⟩, rfl⟩

theorem drawsOne_ofControl (c : Control) :
    DrawsOne root file (.control c) (Node.ofControl root file c) :=
  fun _ => ⟨_, rfl, ⟨rfl, c.typeName?_getD, rfl, rfl, rfl, rfl, rfl, rfl, rfl, rfl⟩, rfl⟩

theorem drawsOne_ofStep (s : Step) : DrawsOne root file (.step s) (Node.ofStep root file s) :=
  fun _ => ⟨_, rfl, ⟨rfl, rfl, rfl, rfl, rfl, rfl, rfl, rfl, rfl, rfl⟩, rfl⟩

theorem draws_nil : Draws root file [] (pure []) :=
  fun _ => ⟨[], rfl, .nil, rfl⟩

theorem draws_mapM {α : Type} {make : α → Item} {build : α → Numbering Node}
    (h : ∀ a, DrawsOne root file (make a) (build a)) (as : List α) :
    Draws root file (as.map make) (as.mapM build) := by
  induction as with
  | nil => exact draws_nil
  | cons a as ih =>
      intro next
      obtain ⟨n, hn, hdepicts, hid⟩ := h a next
      obtain ⟨ns, hns, hall, hids⟩ := ih (next + 1)
      have hrun : ((a :: as).mapM build).run next =
          (n :: ((as.mapM build).run (next + 1)).1, ((as.mapM build).run (next + 1)).2) := by
        rw [List.mapM_cons, StateT.run_bind, hn]
        rfl
      refine ⟨n :: ns, ?_, .cons hdepicts hall, ?_⟩
      · rw [hrun, hns, List.map_cons, List.length_cons, Nat.add_assoc, Nat.add_comm 1]
      · rw [List.map_cons, List.map_cons, hid, hids, List.length_cons, List.range'_succ]

theorem Draws.append {xs ys : List Item} {build build' : Numbering (List Node)}
    (h : Draws root file xs build) (h' : Draws root file ys build') :
    Draws root file (xs ++ ys) (do
      let ns ← build
      let ms ← build'
      pure (ns ++ ms)) := by
  intro next
  obtain ⟨ns, hns, hall, hids⟩ := h next
  obtain ⟨ms, hms, hall', hids'⟩ := h' (next + xs.length)
  refine ⟨ns ++ ms, ?_, List.rel_append hall hall', ?_⟩
  · rw [StateT.run_bind, hns, List.length_append, ← Nat.add_assoc]
    change (ns ++ (build'.run (next + xs.length)).1, (build'.run (next + xs.length)).2) = _
    rw [hms]
  · rw [List.map_append, hids, hids', List.length_append, List.range'_append_1]

/-- The top level has one entry for each item of the module itself. -/
theorem draws_ofModule (d : Document) :
    Draws root file d.tops (Node.ofModule root file d.classes d.functions) :=
  (draws_mapM drawsOne_ofClass d.classes).append
    (draws_mapM (drawsOne_ofFunction none) d.functions)

/-- Below an entry there is one entry for each part of the item that it depicts. -/
theorem Depicts.draws_children {x : Item} {n : Node} (h : Depicts root file x n) :
    Draws root file x.parts n.children := by
  obtain ⟨hlabel, -, -, -, -, rfl, rfl, hkind, -, -⟩ := h
  unfold Node.children
  rw [hkind]
  cases x with
  | «class» c =>
      have hname : n.label = c.name := hlabel
      rw [hname]
      exact ((draws_mapM drawsOne_ofControl c.controls).append
        (draws_mapM drawsOne_ofField c.fields)).append
        (draws_mapM (drawsOne_ofFunction (some c.name)) c.functions)
  | function owner f => exact draws_mapM drawsOne_ofStep f.steps
  | control c => exact draws_nil
  | field f => exact draws_nil
  | step s => exact draws_nil

/-- What cannot be expanded has nothing below. -/
theorem Item.parts_eq_nil {x : Item} (h : x.opens = false) : x.parts = [] := by
  cases x with
  | «class» c => cases h
  | function owner f =>
      have hsteps : f.steps = [] := by simpa [opens] using h
      simp [parts, hsteps]
  | control c => rfl
  | field f => rfl
  | step s => rfl

end Drawing

end Outline
end Testbench
