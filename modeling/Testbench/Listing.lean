import Testbench.Registry

/-!
# Listing — the outline of the file in the editor

The top level of the outline is listed anew whenever it is asked for. A listing that takes too long
is given up. Tooltips are settled in the background.

- `Listing.topLevel`  : classes and functions of the file in the editor;
- `Listing.children`  : what is below an entry;
- `Listing.awaitIdle` : wait until no listing is being made;
- `Listing.refresh`   : have the host ask again.
-/

namespace Testbench
namespace Listing

open Outline (Node Numbering)

def update (f : ListingState → ListingState) : Act Unit :=
  modify fun w => { w with listing := f w.listing }

/-- Build nodes with fresh numbers. -/
def number {α : Type} (build : Numbering α) : Act α := do
  let w ← get
  let (nodes, next) := build.run w.listing.nextNode
  set { w with listing := { w.listing with nextNode := next } }
  pure nodes

/-- Settle the tooltips of nodes in the background. -/
def enrich (nodes : List Node) : Act Unit := do
  if !nodes.isEmpty then Act.spawn (.settleTooltips nodes)

/-- Settle one tooltip after the other, and tell the host each time. -/
def settle : List Node → Act Unit
  | [] => pure ()
  | n :: rest => do
    update fun s => { s with settled := n.id :: s.settled }
    Act.tell (Host.treeChanged (some n.label))
    settle rest

/-! ## Listings in progress -/

/-- A listing begins. -/
def enter : Act Unit :=
  update fun s => { s with active := s.active + 1, refreshing := true }

/-- A listing ends; with the last one, refreshing ends. -/
def leave (w : World) : World :=
  { w with listing := { w.listing with
    active := w.listing.active - 1
    refreshing := w.listing.refreshing && w.listing.active != 1 } }

/-- Wait until no listing is being made. -/
def awaitIdle : Work Unit := Task.pause .idle

/-! ## Listing -/

/-- The classes and functions of a file, unless fetching them takes too long. -/
def fetch (id : ProjectId) (file : Path) :
    Work (Option (List Outline.Class × List Outline.Function)) := do
  let w ← Act.world
  let limit := w.now + w.setup.config.listingMillis
  Task.joinWithin (.until (some limit)) (Parsing.classes (.ofProject id) file)
    (Parsing.functions (.ofProject id) file none)

/-- Store what a listing found. -/
def store (root file : Path) (fetched : Option (List Outline.Class × List Outline.Function)) :
    Act (List Node) := do
  let nodes ← match fetched with
    | some (classes, functions) => number (Node.ofModule root file classes functions)
    | none => pure []
  update fun s => { s with last := some ⟨file, nodes⟩ }
  enrich nodes
  pure nodes

/-- The listing of one file. -/
def list (id : ProjectId) (file : Path) : Work (List Node) := do
  enter
  Task.holding leave do
    let fetched ← fetch id file
    let w ← Act.world
    store (w.root id) file fetched

/-- Classes, then functions, of the file in the editor. There are none without an editor, for a file
outside all projects, and when the listing takes too long. -/
def topLevel : Work (List Node) := do
  let w ← Act.world
  match w.host.editor? with
  | none => pure []
  | some editor => match Registry.find? w editor.file with
    | none => pure []
    | some id => list id editor.file

/-- What is below an entry. -/
def below (n : Node) : Act (List Node) := do
  let nodes ← number n.children
  enrich nodes
  pure nodes

/-- What is below an entry, or the top level. -/
def children : Option Node → Work (List Node)
  | none => topLevel
  | some n => below n

/-- Have the host ask again, for one entry or for all. -/
def refresh (n : Option Node) : Act Unit := Act.tell (Host.treeChanged (n.map (·.label)))

def isSettled (w : World) (n : Node) : Bool := w.listing.settled.contains n.id

/-- The tooltip of an entry as it is now. -/
def tooltip (w : World) (n : Node) : String := if isSettled w n then n.settledTooltip else n.label

end Listing
end Testbench
