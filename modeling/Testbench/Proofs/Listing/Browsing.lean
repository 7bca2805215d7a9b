import Testbench.Proofs.Outline.Tree
import Testbench.Listing
import Mathlib.Logic.Relation
import Mathlib.Data.List.Perm.Basic

/-!
# Browsing — expanding the tree of a document

A person sees the top level of a listing and expands entries in any order. Other listings, and
tooltips that are settled, may come between. However the tree was come by, once all of it is
expanded it shows the items of the document, one row for each.

- `Browse`, `Browse.Step` : what is shown, and what may happen to it;
- `Covers`                : rows, expanded or not, against the items of the document;
- `Browse.Faithful`       : what each step keeps;
- `browse_faithful`       : any row of steps shows the document, and can be brought to its end.
-/

namespace Testbench
namespace Listing

open Outline (Node Item Document Depicts Draws)

/-! ## Browsing -/

/-- An entry on the screen. -/
structure Row where
  level : Nat
  node : Node
  expanded : Bool

/-- Entries that nobody has expanded yet. -/
def rowsOf (level : Nat) (nodes : List Node) : List Row := nodes.map fun n => ⟨level, n, false⟩

/-- What is shown, all entries that were built for it in the order of building, and the numbers of
those whose tooltips were settled since. -/
structure Browse where
  world : World
  rows : List Row
  made : List Node
  resolved : List Nat

namespace Browse

/-- Only entries that were built have settled tooltips. -/
def Orderly (w : World) : Prop := ∀ id ∈ w.listing.settled, id < w.listing.nextNode

/-- A top level is listed. -/
def listed (d : Document) (root file : Path) (w : World) : Browse :=
  let (nodes, w') := (store root file (some (d.classes, d.functions))).run w
  ⟨w', rowsOf 0 nodes, nodes, []⟩

/-- One thing that happens. -/
inductive Step : Browse → Browse → Prop where
  | expand {w : World} {before after : List Row} {level : Nat} {n : Node} {made : List Node}
      {resolved : List Nat} :
      Step ⟨w, before ++ ⟨level, n, false⟩ :: after, made, resolved⟩
        ⟨((below n).run w).2,
          before ++ ⟨level, n, true⟩ :: (rowsOf (level + 1) ((below n).run w).1 ++ after),
          made ++ ((below n).run w).1, resolved⟩
  /-- Tooltips are settled through any copies of entries. -/
  | settle {b : Browse} {copies : List Node}
      (hcopies : ∀ c ∈ copies, ∃ n ∈ b.made, n.id = c.id) :
      Step b { b with
        world := ((Listing.settle copies).run b.world).2
        resolved := b.resolved ++ copies.map Node.id }
  /-- Other work builds and settles entries of its own. -/
  | other {b : Browse} {w : World} (horderly : Orderly w)
      (hnext : b.world.listing.nextNode ≤ w.listing.nextNode)
      (hsettled : ∀ n ∈ b.made, n.id ∈ w.listing.settled ↔ n.id ∈ b.world.listing.settled) :
      Step b { b with world := w }

/-- Nothing is left to be expanded. -/
def IsFull (b : Browse) : Prop := ∀ r ∈ b.rows, r.expanded = true

end Browse

/-- A copy of an entry says what the entry says, wherever it is held. -/
structure IsCopy (c n : Node) : Prop where
  id : c.id = n.id
  label : c.label = n.label
  docstring : c.docstring = n.docstring

/-! ## What the acts do -/

section Acts

variable {root file : Path} {xs : List Item}

theorem run_number {α : Type} (build : Outline.Numbering α) (w : World) :
    (number build).run w = ((build.run w.listing.nextNode).1,
      { w with listing := { w.listing with nextNode := (build.run w.listing.nextNode).2 } }) := rfl

theorem listing_enrich (nodes : List Node) (w : World) :
    ((enrich nodes).run w).2.listing = w.listing := by
  unfold enrich
  split <;> rfl

/-- What entries built on the listing of a world are, and what they leave of it. -/
structure Built (root file : Path) (xs : List Item) (w : World) (nodes : List Node) (w' : World) :
    Prop where
  depicts : List.Forall₂ (Depicts root file) xs nodes
  ids : nodes.map Node.id = List.range' w.listing.nextNode xs.length
  next : w'.listing.nextNode = w.listing.nextNode + xs.length
  settled : w'.listing.settled = w.listing.settled

theorem Built.ofDraws {build : Outline.Numbering (List Node)} (h : Draws root file xs build)
    (w : World) : Built root file xs w ((number build).run w).1 ((number build).run w).2 := by
  obtain ⟨nodes, hrun, hdepicts, hids⟩ := h w.listing.nextNode
  rw [run_number, hrun]
  exact ⟨hdepicts, hids, rfl, rfl⟩

theorem built_below {x : Item} {n : Node} (h : Depicts root file x n) (w : World) :
    Built root file x.parts w ((below n).run w).1 ((below n).run w).2 := by
  obtain ⟨hdepicts, hids, hnext, hsettled⟩ := Built.ofDraws h.draws_children w
  have hlisting := listing_enrich ((number n.children).run w).1 ((number n.children).run w).2
  exact ⟨hdepicts, hids, (congrArg _ hlisting).trans hnext, (congrArg _ hlisting).trans hsettled⟩

theorem built_store (d : Document) (w : World) :
    let stored := (store root file (some (d.classes, d.functions))).run w
    Built root file d.tops w stored.1 stored.2 := by
  have hdraws : Outline.Draws root file d.tops (Node.ofModule root file d.classes d.functions) :=
    Outline.draws_ofModule d
  obtain ⟨hdepicts, hids, hnext, hsettled⟩ := Built.ofDraws hdraws w
  refine ⟨hdepicts, hids, ?_, ?_⟩
  · exact (congrArg ListingState.nextNode (listing_enrich _ _)).trans hnext
  · exact (congrArg ListingState.settled (listing_enrich _ _)).trans hsettled

theorem Built.mem_ids {w w' : World} {nodes : List Node} (h : Built root file xs w nodes w')
    {n : Node} (hn : n ∈ nodes) : w.listing.nextNode ≤ n.id ∧ n.id < w'.listing.nextNode := by
  have hid : n.id ∈ nodes.map Node.id := List.mem_map_of_mem hn
  rw [h.ids, List.mem_range'_1] at hid
  rw [h.next]
  exact hid

theorem listing_settle (copies : List Node) (w : World) :
    ((settle copies).run w).2.listing.nextNode = w.listing.nextNode ∧
      ∀ id, id ∈ ((settle copies).run w).2.listing.settled ↔
        id ∈ w.listing.settled ∨ id ∈ copies.map Node.id := by
  induction copies generalizing w with
  | nil => exact ⟨rfl, fun id => (or_iff_left List.not_mem_nil).symm⟩
  | cons c copies ih =>
      let w₁ : World :=
        { w with
          listing := { w.listing with settled := c.id :: w.listing.settled }
          host := (Host.treeChanged (some c.label)) w.host }
      have hrun : (settle (c :: copies)).run w = (settle copies).run w₁ := rfl
      rw [hrun]
      refine ⟨(ih w₁).1, fun id => ?_⟩
      have hfirst : id ∈ w₁.listing.settled ↔ id = c.id ∨ id ∈ w.listing.settled := List.mem_cons
      rw [(ih w₁).2 id, hfirst, List.map_cons, List.mem_cons]
      tauto

end Acts

/-! ## Rows against items -/

/-- Rows against items in preorder: an expanded row stands for its item, another one also for all
that is inside. -/
inductive Covers (root file : Path) : List Row → List (Nat × Item) → Prop where
  | nil : Covers root file [] []
  | expanded {level : Nat} {n : Node} {x : Item} {rows : List Row} {items : List (Nat × Item)}
      (hdepicts : Depicts root file x n) (hrest : Covers root file rows items) :
      Covers root file (⟨level, n, true⟩ :: rows) ((level, x) :: items)
  | waiting {level : Nat} {n : Node} {x : Item} {rows : List Row} {items : List (Nat × Item)}
      (hdepicts : Depicts root file x n) (hrest : Covers root file rows items) :
      Covers root file (⟨level, n, false⟩ :: rows) (x.preorder level ++ items)

namespace Covers

variable {root file : Path} {rows : List Row} {items : List (Nat × Item)}

theorem rowsOf {xs : List Item} {nodes : List Node}
    (h : List.Forall₂ (Depicts root file) xs nodes) (level : Nat)
    (hrest : Covers root file rows items) :
    Covers root file (rowsOf level nodes ++ rows) (xs.flatMap (Item.preorder level) ++ items) := by
  induction h with
  | nil => exact hrest
  | cons hdepicts _ ih =>
      rw [List.flatMap_cons, List.append_assoc]
      exact .waiting hdepicts ih

theorem depicts (h : Covers root file rows items) {r : Row} (hr : r ∈ rows) :
    ∃ x, Depicts root file x r.node := by
  induction h with
  | nil => cases hr
  | expanded hdepicts _ ih | waiting hdepicts _ ih =>
      rcases List.mem_cons.mp hr with rfl | hr
      · exact ⟨_, hdepicts⟩
      · exact ih hr

/-- To expand a row is to put the rows of its parts after it. -/
theorem expand {before after : List Row} {level : Nat} {n : Node} {nodes : List Node}
    (h : Covers root file (before ++ ⟨level, n, false⟩ :: after) items)
    (hnodes : ∀ x, Depicts root file x n → List.Forall₂ (Depicts root file) x.parts nodes) :
    Covers root file
      (before ++ ⟨level, n, true⟩ :: (Listing.rowsOf (level + 1) nodes ++ after)) items := by
  induction before generalizing items with
  | nil =>
      cases h with
      | waiting hdepicts hrest =>
          rw [Item.preorder_eq]
          exact .expanded hdepicts (rowsOf (hnodes _ hdepicts) _ hrest)
  | cons r before ih =>
      cases h with
      | expanded hdepicts hrest => exact .expanded hdepicts (ih hrest)
      | waiting hdepicts hrest => exact .waiting hdepicts (ih hrest)

theorem forall₂ (h : Covers root file rows items) (hfull : ∀ r ∈ rows, r.expanded = true) :
    List.Forall₂ (fun item r => r.level = item.1 ∧ Depicts root file item.2 r.node) items rows := by
  induction h with
  | nil => exact .nil
  | expanded hdepicts _ ih =>
      exact .cons ⟨rfl, hdepicts⟩ (ih fun r hr => hfull r (List.mem_cons_of_mem _ hr))
  | waiting _ _ _ => cases hfull _ List.mem_cons_self

/-- There are at least as many items as expanded rows. -/
theorem countP_le (h : Covers root file rows items) : rows.countP Row.expanded ≤ items.length := by
  induction h with
  | nil => exact Nat.le_refl 0
  | expanded _ _ ih => simpa using ih
  | waiting _ _ ih =>
      rw [List.countP_cons, List.length_append]
      simp only [Bool.false_eq_true, if_false]
      omega

end Covers

/-! ## What each step keeps -/

namespace Browse

variable {d : Document} {root file : Path} {b b' : Browse}

/-- What is shown is a part of the document. -/
structure Faithful (d : Document) (root file : Path) (b : Browse) : Prop where
  covers : Covers root file b.rows d.items
  perm : (b.rows.map Row.node).Perm b.made
  ids : (b.made.map Node.id).Pairwise (· < ·)
  below : ∀ n ∈ b.made, n.id < b.world.listing.nextNode
  settled : ∀ n ∈ b.made, n.id ∈ b.world.listing.settled ↔ n.id ∈ b.resolved
  resolved : ∀ id ∈ b.resolved, ∃ n ∈ b.made, n.id = id
  orderly : Orderly b.world

theorem Faithful.depicts (h : Faithful d root file b) {n : Node} (hn : n ∈ b.made) :
    ∃ x, Depicts root file x n := by
  obtain ⟨r, hr, rfl⟩ := List.mem_map.mp (h.perm.mem_iff.mpr hn)
  exact h.covers.depicts hr

/-- Further numbers come after the ones that were given. -/
theorem pairwise_append {made nodes : List Node} {next count : Nat}
    (hids : (made.map Node.id).Pairwise (· < ·)) (hbelow : ∀ n ∈ made, n.id < next)
    (hnodes : nodes.map Node.id = List.range' next count) :
    ((made ++ nodes).map Node.id).Pairwise (· < ·) := by
  rw [List.map_append, hnodes, List.pairwise_append]
  refine ⟨hids, List.pairwise_lt_range', fun id hid id' hid' => ?_⟩
  obtain ⟨n, hn, rfl⟩ := List.mem_map.mp hid
  exact Nat.lt_of_lt_of_le (hbelow n hn) (List.mem_range'_1.mp hid').1

theorem map_node_rowsOf (level : Nat) (nodes : List Node) :
    (rowsOf level nodes).map Row.node = nodes := by
  rw [rowsOf, List.map_map]
  exact List.map_id nodes

theorem Orderly.built {xs : List Item} {nodes : List Node} {w w' : World} (h : Orderly w)
    (hbuilt : Built root file xs w nodes w') : Orderly w' := by
  intro id hid
  rw [hbuilt.settled] at hid
  rw [hbuilt.next]
  exact Nat.lt_add_right _ (h id hid)

/-- A tooltip that was settled is not one of an entry built later. -/
theorem Orderly.not_settled {xs : List Item} {nodes : List Node} {w w' : World} (h : Orderly w)
    (hbuilt : Built root file xs w nodes w') {n : Node} (hn : n ∈ nodes) :
    n.id ∉ w'.listing.settled := by
  rw [hbuilt.settled]
  exact fun hid => absurd (h _ hid) (Nat.not_lt.mpr (hbuilt.mem_ids hn).1)

theorem faithful_listed {w : World} (h : Orderly w) :
    Faithful d root file (listed d root file w) := by
  have hbuilt : Built root file d.tops w (listed d root file w).made (listed d root file w).world :=
    built_store d w
  refine ⟨?_, .of_eq (map_node_rowsOf 0 _), ?_, fun n hn => (hbuilt.mem_ids hn).2, fun n hn => ?_,
    fun _ hid => absurd hid List.not_mem_nil, h.built hbuilt⟩
  · have hcovers := Covers.rowsOf hbuilt.depicts 0 Covers.nil
    rw [List.append_nil, List.append_nil, ← Document.items_eq] at hcovers
    exact hcovers
  · have hpairwise :=
      pairwise_append List.Pairwise.nil (fun _ h => absurd h List.not_mem_nil) hbuilt.ids
    exact hpairwise
  · exact iff_of_false (h.not_settled hbuilt hn) List.not_mem_nil

theorem Faithful.expand {w : World} {before after : List Row} {level : Nat} {n : Node}
    {made : List Node} {resolved : List Nat}
    (h : Faithful d root file ⟨w, before ++ ⟨level, n, false⟩ :: after, made, resolved⟩) :
    Faithful d root file
      ⟨((Listing.below n).run w).2,
        before ++ ⟨level, n, true⟩ :: (rowsOf (level + 1) ((Listing.below n).run w).1 ++ after),
        made ++ ((Listing.below n).run w).1, resolved⟩ := by
  obtain ⟨x, hx⟩ := h.covers.depicts (r := ⟨level, n, false⟩) (by simp)
  have hbuilt := built_below hx w
  have hnext : w.listing.nextNode ≤ ((Listing.below n).run w).2.listing.nextNode :=
    hbuilt.next ▸ Nat.le_add_right _ _
  refine ⟨h.covers.expand fun y hy => (built_below hy w).depicts, ?_,
    pairwise_append h.ids h.below hbuilt.ids, ?_, ?_, ?_, h.orderly.built hbuilt⟩
  -- The new rows stand in the middle of the screen, but their entries were built last.
  · have hperm := h.perm
    simp only [List.map_append, List.map_cons, map_node_rowsOf] at hperm ⊢
    refine .trans ?_ (hperm.append_right _)
    simp only [List.append_assoc, List.cons_append]
    exact .append_left _ (.cons _ List.perm_append_comm)
  · intro m hm
    rcases List.mem_append.mp hm with hm | hm
    · exact Nat.lt_of_lt_of_le (h.below m hm) hnext
    · exact (hbuilt.mem_ids hm).2
  · intro m hm
    rcases List.mem_append.mp hm with hm | hm
    · rw [hbuilt.settled]
      exact h.settled m hm
    -- An entry that was just built has a number that nobody can have settled yet.
    · refine iff_of_false (h.orderly.not_settled hbuilt hm) fun hid => ?_
      obtain ⟨m', hm', hid⟩ := h.resolved _ hid
      exact absurd (h.below m' hm') (hid ▸ Nat.not_lt.mpr (hbuilt.mem_ids hm).1)
  · intro id hid
    obtain ⟨m, hm, hid⟩ := h.resolved id hid
    exact ⟨m, List.mem_append_left _ hm, hid⟩

theorem Faithful.settle {copies : List Node} (h : Faithful d root file b)
    (hcopies : ∀ c ∈ copies, ∃ n ∈ b.made, n.id = c.id) :
    Faithful d root file
      { b with
        world := ((Listing.settle copies).run b.world).2
        resolved := b.resolved ++ copies.map Node.id } := by
  obtain ⟨hnext, hsettled⟩ := listing_settle copies b.world
  have hmade : ∀ id ∈ copies.map Node.id, ∃ n ∈ b.made, n.id = id := by
    intro id hid
    obtain ⟨c, hc, rfl⟩ := List.mem_map.mp hid
    exact hcopies c hc
  refine ⟨h.covers, h.perm, h.ids, fun n hn => hnext ▸ h.below n hn, fun n hn => ?_,
    fun id hid => ?_, fun id hid => ?_⟩
  · rw [hsettled, List.mem_append, h.settled n hn]
  · rcases List.mem_append.mp hid with hid | hid
    · exact h.resolved id hid
    · exact hmade id hid
  · rw [hnext]
    rcases (hsettled id).mp hid with hid | hid
    · exact h.orderly id hid
    · obtain ⟨n, hn, rfl⟩ := hmade id hid
      exact h.below n hn

theorem Faithful.step (h : Faithful d root file b) (hstep : Step b b') :
    Faithful d root file b' := by
  cases hstep with
  | expand => exact h.expand
  | settle hcopies => exact h.settle hcopies
  | other horderly hnext hsettled =>
      exact ⟨h.covers, h.perm, h.ids, fun n hn => Nat.lt_of_lt_of_le (h.below n hn) hnext,
        fun n hn => (hsettled n hn).trans (h.settled n hn), h.resolved, horderly⟩

theorem Faithful.run (h : Faithful d root file b) (hrun : Relation.ReflTransGen Step b b') :
    Faithful d root file b' := by
  induction hrun with
  | refl => exact h
  | tail _ hstep ih => exact ih.step hstep

/-! ## To the end -/

theorem countP_rowsOf (level : Nat) (nodes : List Node) :
    (rowsOf level nodes).countP Row.expanded = 0 := by
  rw [List.countP_eq_zero]
  intro r hr
  obtain ⟨n, -, rfl⟩ := List.mem_map.mp hr
  exact Bool.false_ne_true

/-- As long as something can be expanded, it can be. -/
theorem exists_step (h : ¬ b.IsFull) :
    ∃ b', Step b b' ∧ b'.rows.countP Row.expanded = b.rows.countP Row.expanded + 1 := by
  obtain ⟨⟨level, n, expanded⟩, hr, hexpanded⟩ : ∃ r ∈ b.rows, ¬ r.expanded = true := by
    simpa [IsFull] using h
  obtain rfl : expanded = false := by simpa using hexpanded
  obtain ⟨w, rows, made, resolved⟩ := b
  obtain ⟨before, after, rfl⟩ := List.append_of_mem hr
  refine ⟨_, .expand, ?_⟩
  simp only [List.countP_append, List.countP_cons, countP_rowsOf, Bool.false_eq_true, if_true,
    if_false]
  omega

/-- There are only so many items, and whatever is expanded takes one of them. -/
theorem Faithful.exists_isFull (h : Faithful d root file b) (left : Nat)
    (hleft : d.items.length ≤ b.rows.countP Row.expanded + left) :
    ∃ b', Relation.ReflTransGen Step b b' ∧ b'.IsFull := by
  induction left generalizing b with
  | zero =>
      -- One more expanded row would be one more than there are items.
      by_contra hnone
      have hfull : ¬ b.IsFull := fun hfull => hnone ⟨b, .refl, hfull⟩
      obtain ⟨b₁, hstep, hcount⟩ := exists_step hfull
      have hle := (h.step hstep).covers.countP_le
      omega
  | succ left ih =>
      by_cases hfull : b.IsFull
      · exact ⟨b, .refl, hfull⟩
      · obtain ⟨b₁, hstep, hcount⟩ := exists_step hfull
        obtain ⟨b', hrun, hfull'⟩ := ih (h.step hstep) (by omega)
        exact ⟨b', .head hstep hrun, hfull'⟩

theorem Faithful.tooltip (h : Faithful d root file b) {n c : Node} (hn : n ∈ b.made)
    (hc : IsCopy c n) :
    Listing.tooltip b.world c =
      if n.id ∈ b.resolved then (if n.docstring = "" then n.label else n.docstring)
      else n.label := by
  have hsettled : isSettled b.world c = true ↔ n.id ∈ b.resolved := by
    rw [isSettled, hc.id, List.contains_iff_mem, h.settled n hn]
  simp only [Listing.tooltip, hsettled, Node.settledTooltip, hc.label, hc.docstring,
    String.isEmpty_iff]

end Browse

/-- Whatever comes between, a tree that is expanded to its end has one row for each item of its
document, in preorder. Entries are numbered in the order in which they were built, those that cannot
be expanded have nothing below, and a tooltip is the label until it is settled through some copy.
The end can be reached from everywhere. -/
theorem browse_faithful {d : Document} {root file : Path} {w : World} {b : Browse}
    (horderly : Browse.Orderly w)
    (hrun : Relation.ReflTransGen Browse.Step (Browse.listed d root file w) b) :
    (b.IsFull →
      List.Forall₂ (fun item r => r.level = item.1 ∧ Depicts root file item.2 r.node)
        d.items b.rows) ∧
    (b.rows.map Row.node).Perm b.made ∧
    (b.made.map Node.id).Pairwise (· < ·) ∧
    (∀ n ∈ b.made, n.collapsed = false → ∀ w', ((below n).run w').1 = []) ∧
    (∀ n ∈ b.made, ∀ c, IsCopy c n →
      tooltip b.world c =
        if n.id ∈ b.resolved then (if n.docstring = "" then n.label else n.docstring)
        else n.label) ∧
    ∃ b', Relation.ReflTransGen Browse.Step b b' ∧ b'.IsFull := by
  have h := (Browse.faithful_listed horderly).run hrun
  refine ⟨h.covers.forall₂, h.perm, h.ids, fun n hn hcollapsed w' => ?_,
    fun n hn c hc => h.tooltip hn hc, h.exists_isFull d.items.length (Nat.le_add_left _ _)⟩
  obtain ⟨x, hx⟩ := h.depicts hn
  have hparts := Item.parts_eq_nil (hx.collapsed.symm.trans hcollapsed)
  have hbuilt := (built_below hx w').depicts
  rw [hparts, List.forall₂_nil_left_iff] at hbuilt
  exact hbuilt

/-- A class with one entry of each kind, and a function whose end was not reported. -/
def sampleModule : Document where
  docstring := none
  classes := [{
    name := "Login", docstring := "Sign in", line := 3, endline := 9, isTestcase := true
    bases := []
    fields := [⟨"timeout", "5", 5⟩]
    functions := [⟨"run", "", 6, 9, [⟨"open", "Open the form", 7, 8⟩]⟩]
    controls := [⟨"button", 4, 4, [("type", .array [.text "by name", .text "Button"])]⟩] }]
  functions := [⟨"helper", "", 12, 0, []⟩]
  errors := []

theorem browse_faithful_sampleModule :
    ∃ b, Relation.ReflTransGen Browse.Step
        (Browse.listed sampleModule ⟨"/p"⟩ ⟨"/p/a.py"⟩ default) b ∧
      b.IsFull ∧
      b.rows.map (fun r => (r.level, r.node.label, r.node.docstring, r.node.lines)) =
        [(0, "Login", "Sign in", ⟨3, 9⟩), (1, "button", "Button", ⟨4, 4⟩),
          (1, "timeout", "5", ⟨5, 5⟩), (1, "run", "", ⟨6, 9⟩), (2, "open", "Open the form", ⟨7, 8⟩),
          (0, "helper", "", ⟨12, 12⟩)] := by
  have horderly : Browse.Orderly default := fun _ hid => absurd hid List.not_mem_nil
  obtain ⟨-, -, -, -, -, b, hrun, hfull⟩ := browse_faithful horderly .refl
  refine ⟨b, hrun, hfull, ?_⟩
  have hshown := (browse_faithful horderly hrun).1 hfull
  have hrows : sampleModule.items.map (fun i =>
      (i.1, i.2.name, i.2.docstring, Outline.LineRange.mk i.2.line (max i.2.line i.2.endline))) =
      b.rows.map (fun r => (r.level, r.node.label, r.node.docstring, r.node.lines)) := by
    rw [← List.forall₂_eq_eq_eq, List.forall₂_map_left_iff, List.forall₂_map_right_iff]
    refine hshown.imp fun item r hr => ?_
    rw [hr.1, hr.2.label, hr.2.docstring, ← hr.2.last, ← hr.2.first]
  exact hrows.symm.trans (by decide)

end Listing
end Testbench
