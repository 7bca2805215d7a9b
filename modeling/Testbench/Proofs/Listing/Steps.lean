import Testbench.Proofs.Parsing.Activity

/-!
# Steps — what a listing does, point by point

A listing of the file in the editor asks a project's parser twice, and may be given up in between.
Its acts are few, so what each of them leaves alone is left alone by every listing, however far it
is.

- `Listing.Deed`            : the acts of a listing, and what it lets go of;
- `Listing.Admits`, `AdmitsFetch` : laws that a listing keeps, or the fetching of its parts;
- `Listing.obeys_topLevel`  : a listing does nothing else;
- `Host.Notified`, `Aside`, `Deed.aside` : what no listing changes, but for messages to a person;
- `Listing.aside_of_steps`  : any number of steps.
-/

namespace Testbench

/-- A host was told of failures, and of nothing else. -/
inductive Host.Notified : Host → Host → Prop where
  | nothing (host : Host) : Notified host host
  | status {host host' : Host} (text : String) (h : Notified host host') :
      Notified host (host'.updateStatus text)
  | error {host host' : Host} (text : String) (h : Notified host host') :
      Notified host (host'.showError text)

theorem Host.Notified.trans {host host' host'' : Host} (h : Notified host host')
    (h' : Notified host' host'') : Notified host host'' := by
  induction h' with
  | nothing => exact h
  | status text _ ih => exact .status text ih
  | error text _ ih => exact .error text ih

namespace Listing

open Outline (Node Document)
open Testbench.Task (Ran Step Steps Obeys)

/-! ## Deeds -/

/-- What a listing lets go of when it ends or is given up. -/
inductive Releases : (World → World) → Prop where
  | nothing : Releases id
  | turn (p : Parser) (ticket : Nat) : Releases (Parser.leave p ticket)
  | listing : Releases leave
  | comp {f g : World → World} (hf : Releases f) (hg : Releases g) : Releases fun w => g (f w)

/-- What a listing does at one point. -/
inductive Deed : Ran World → Prop where
  | look (w : World) : Deed ⟨w, World, Act.world.run⟩
  | enter (w : World) : Deed ⟨w, Unit, enter.run⟩
  | queueUp (p : Parser) (w : World) : Deed ⟨w, Nat, (Parser.queueUp p).run⟩
  | lookUp (root : Path) (key : String) (file : Path) (w : World) :
      Deed ⟨w, Parsing.Found, (Parsing.lookUp root key file).run⟩
  | launch (i : Invocation) (w : World) :
      Deed ⟨w, Except Error Outcome × Option Nat, (Work.launch i).run⟩
  | conclude (root : Path) (key : String) (file : Path) (modified : Nat) (v : Parsing.Verdict)
      (w : World) : Deed ⟨w, Option Document, (Parsing.conclude root key file modified v).run⟩
  | store (root file : Path) (fetched : Option (List Outline.Class × List Outline.Function))
      (w : World) : Deed ⟨w, List Node, (store root file fetched).run⟩
  | release {f : World → World} (hf : Releases f) (w : World) : Deed (.change w f)

/-- Listings are free to do their deeds, whatever was done before. -/
def law : Law World PUnit where
  allows _ := Deed
  note _ := ⟨⟩
  mild := Releases
  allows_mild hf := .release hf _
  mild_id := .nothing
  mild_comp := .comp

/-! ## A listing does nothing else -/

/-- Any result will do. -/
abbrev anyhow {α : Type} : List PUnit → α → Prop := fun _ _ => True

/-- A law under which listings may do what they do. The only program that they start is the one that
prints an outline. -/
structure Admits (law : Law World PUnit) : Prop where
  look : ∀ past w, law.allows past ⟨w, World, Act.world.run⟩
  enter : ∀ past w, law.allows past ⟨w, Unit, enter.run⟩
  queueUp : ∀ past p w, law.allows past ⟨w, Nat, (Parser.queueUp p).run⟩
  lookUp : ∀ past root key file w,
    law.allows past ⟨w, Parsing.Found, (Parsing.lookUp root key file).run⟩
  launch : ∀ past (p : Parser) (v w : World) (file : Path), law.allows past
    ⟨w, Except Error Outcome × Option Nat, (Work.launch (p.invocation v file)).run⟩
  conclude : ∀ past root key file modified v w,
    law.allows past ⟨w, Option Document, (Parsing.conclude root key file modified v).run⟩
  store : ∀ past root file fetched w, law.allows past ⟨w, List Node, (store root file fetched).run⟩
  release : ∀ {f : World → World}, Releases f → law.mild f

/-- A law under which the parts of a listing may be fetched. -/
structure AdmitsFetch (law : Law World PUnit) : Prop where
  look : ∀ past w, law.allows past ⟨w, World, Act.world.run⟩
  queueUp : ∀ past p w, law.allows past ⟨w, Nat, (Parser.queueUp p).run⟩
  lookUp : ∀ past root key file w,
    law.allows past ⟨w, Parsing.Found, (Parsing.lookUp root key file).run⟩
  launch : ∀ past (p : Parser) (v w : World) (file : Path), law.allows past
    ⟨w, Except Error Outcome × Option Nat, (Work.launch (p.invocation v file)).run⟩
  conclude : ∀ past root key file modified v w,
    law.allows past ⟨w, Option Document, (Parsing.conclude root key file modified v).run⟩
  turn : ∀ p ticket, law.mild (Parser.leave p ticket)

/-- What is listed in a world. -/
def listIn (w : World) : Work (List Node) :=
  match w.host.editor? with
  | none => pure []
  | some editor => match Registry.find? w editor.file with
    | none => pure []
    | some id => list id editor.file

namespace AdmitsFetch

variable {law : Law World PUnit}

theorem obeys_fetch (h : AdmitsFetch law) (p : Parser) (root : Path) (key : String) (file : Path)
    (past : List PUnit) : (Parsing.fetch p root key file).Obeys law anyhow past := by
  intro past₁ w₁ _
  refine ⟨h.lookUp _ root key file w₁, ?_⟩
  cases hfound : ((Parsing.lookUp root key file).run w₁).1 with
  | unreadable => exact fun _ _ => trivial
  | cached d => exact fun _ _ => trivial
  | missing modified =>
      intro past₂ w₂ _
      refine ⟨h.look _ w₂, fun past₃ w₃ _ => ⟨h.launch _ p w₂ w₃ file, fun past₄ w₄ _ => ?_⟩⟩
      exact ⟨h.conclude _ root key file modified _ w₄, fun _ _ => trivial⟩

theorem obeys_parse (h : AdmitsFetch law) (p : Parser) (file : Path) (past : List PUnit) :
    (Parsing.parse p file).Obeys law anyhow past := by
  intro past₁ w₁ _
  refine ⟨h.look _ w₁, ?_⟩
  change (Activity.parseIn p file w₁.files).Obeys _ _ _
  cases haddress : Parsing.address? w₁.files file with
  | none =>
      rw [Activity.parseIn_none haddress]
      exact fun _ _ => trivial
  | some address =>
      obtain ⟨root, key⟩ := address
      rw [Activity.parseIn_some haddress]
      intro past₂ w₂ _
      exact ⟨h.queueUp _ p w₂, anyhow, h.obeys_fetch p root key file _, h.turn p _,
        fun _ _ _ _ _ _ => trivial⟩

theorem obeys_fetchOf (h : AdmitsFetch law) (id : ProjectId) (file : Path) (past : List PUnit) :
    (fetch id file).Obeys law anyhow past := by
  intro past₁ w₁ _
  refine ⟨h.look _ w₁, anyhow, anyhow, ?_, ?_, fun _ _ _ _ _ _ _ _ => trivial,
    fun _ _ _ _ => trivial⟩
  · exact (h.obeys_parse (.ofProject id) file _).bind fun _ _ _ _ _ _ => trivial
  · exact (h.obeys_parse (.ofProject id) file _).bind fun _ _ _ _ _ _ => trivial

end AdmitsFetch

namespace Admits

variable {law : Law World PUnit}

theorem admitsFetch (h : Admits law) : AdmitsFetch law where
  look := h.look
  queueUp := h.queueUp
  lookUp := h.lookUp
  launch := h.launch
  conclude := h.conclude
  turn p ticket := h.release (.turn p ticket)

theorem obeys_fetchOf (h : Admits law) (id : ProjectId) (file : Path) (past : List PUnit) :
    (fetch id file).Obeys law anyhow past :=
  h.admitsFetch.obeys_fetchOf id file past

theorem obeys_list (h : Admits law) (id : ProjectId) (file : Path) (past : List PUnit) :
    (list id file).Obeys law anyhow past := by
  intro past₁ w₁ _
  refine ⟨h.enter _ w₁, anyhow, ?_, h.release .listing, fun _ _ _ _ _ _ => trivial⟩
  refine (h.obeys_fetchOf id file _).bind fun past₂ fetched _ _ => ?_
  intro past₃ w₃ _
  exact ⟨h.look _ w₃, fun past₄ w₄ _ => ⟨h.store _ _ file fetched w₄, fun _ _ => trivial⟩⟩

theorem obeys_topLevel (h : Admits law) (past : List PUnit) : topLevel.Obeys law anyhow past := by
  intro past₁ w₁ _
  refine ⟨h.look _ w₁, ?_⟩
  change (listIn w₁).Obeys _ _ _
  unfold listIn
  split
  · exact fun _ _ => trivial
  · split
    · exact fun _ _ => trivial
    · exact h.obeys_list _ _ _

end Admits

theorem admits_law : Admits law where
  look _ := .look
  enter _ := .enter
  queueUp _ := .queueUp
  lookUp _ := .lookUp
  launch _ p v w file := .launch (p.invocation v file) w
  conclude _ := .conclude
  store _ := .store
  release hf := hf

theorem obeys_topLevel (past : List PUnit) : topLevel.Obeys law anyhow past :=
  admits_law.obeys_topLevel past

/-! ## What no listing changes -/

/-- Projects stay where they are, lenses and settings as they are. -/
structure Aside (w w' : World) : Prop where
  setup : w'.setup = w.setup
  lenses : w'.lenses = w.lenses
  registry : w'.registry = w.registry
  roots : w'.projects.map Project.root = w.projects.map Project.root
  notified : w.host.Notified w'.host

namespace Aside

variable {w w' w'' : World}

theorem refl (w : World) : Aside w w := ⟨rfl, rfl, rfl, rfl, .nothing _⟩

theorem trans (h : Aside w w') (h' : Aside w' w'') : Aside w w'' :=
  ⟨h'.setup.trans h.setup, h'.lenses.trans h.lenses, h'.registry.trans h.registry,
    h'.roots.trans h.roots, h.notified.trans h'.notified⟩

end Aside

theorem Releases.aside {f : World → World} (h : Releases f) (w : World) : Aside w (f w) := by
  induction h generalizing w with
  | nothing => exact .refl w
  | turn | listing => exact ⟨rfl, rfl, rfl, rfl, .nothing _⟩
  | comp _ _ ihf ihg => exact (ihf w).trans (ihg _)

theorem aside_lookUp (root : Path) (key : String) (file : Path) (w : World) :
    Aside w ((Parsing.lookUp root key file).run w).2 := by
  cases htime : ProjectFiles.modifiedMillis w.files file with
  | error cause =>
      rw [Activity.run_lookUp_error htime]
      exact .refl w
  | ok modified =>
      rw [Activity.run_lookUp_ok htime]
      exact ⟨rfl, rfl, rfl, rfl, .nothing _⟩

theorem aside_launch (i : Invocation) (w : World) : Aside w ((Work.launch i).run w).2 := by
  rw [Activity.run_launch]
  cases w.runner with
  | script s => exact ⟨rfl, rfl, rfl, rfl, .nothing _⟩
  | files => exact ⟨rfl, rfl, rfl, rfl, .nothing _⟩

theorem aside_conclude (root : Path) (key : String) (file : Path) (modified : Nat)
    (v : Parsing.Verdict) (w : World) :
    Aside w ((Parsing.conclude root key file modified v).run w).2 := by
  cases v with
  | failed detail => exact ⟨rfl, rfl, rfl, rfl, .error _ (.status _ (.nothing _))⟩
  | unreadable => exact ⟨rfl, rfl, rfl, rfl, .status _ (.nothing _)⟩
  | syntaxErrors => exact ⟨rfl, rfl, rfl, rfl, .status _ (.nothing _)⟩
  | parsed d => exact ⟨rfl, rfl, rfl, rfl, .nothing _⟩

theorem aside_enrich (nodes : List Node) (w : World) : Aside w ((enrich nodes).run w).2 := by
  unfold enrich
  split <;> exact ⟨rfl, rfl, rfl, rfl, .nothing _⟩

theorem aside_store (root file : Path)
    (fetched : Option (List Outline.Class × List Outline.Function)) (w : World) :
    Aside w ((store root file fetched).run w).2 := by
  cases fetched with
  | none => exact ⟨rfl, rfl, rfl, rfl, .nothing _⟩
  | some parts =>
      obtain ⟨classes, functions⟩ := parts
      let build := (Node.ofModule root file classes functions).run w.listing.nextNode
      let stored : World :=
        { w with
          listing := { w.listing with nextNode := build.2, last := some ⟨file, build.1⟩ } }
      have hstored : Aside w stored := ⟨rfl, rfl, rfl, rfl, .nothing _⟩
      exact hstored.trans (aside_enrich build.1 stored)

theorem Deed.aside {r : Ran World} (h : Deed r) : Aside r.before r.after := by
  cases h with
  | look w => exact .refl w
  | enter w => exact ⟨rfl, rfl, rfl, rfl, .nothing _⟩
  | queueUp p w => exact ⟨rfl, rfl, rfl, rfl, .nothing _⟩
  | lookUp root key file w => exact aside_lookUp root key file w
  | launch i w => exact aside_launch i w
  | conclude root key file modified v w => exact aside_conclude root key file modified v w
  | store root file fetched w => exact aside_store root file fetched w
  | release hf w => exact hf.aside w

/-- A listing changes none of this in any number of steps, however far it was. -/
theorem aside_of_steps {α : Type} {t t' : Work α} {w w' : World} {xs : List (Ran World)}
    (hsteps : Steps t w xs t' w') {past : List PUnit} (h : t.Obeys law anyhow past) :
    Aside w w' ∧ ∃ past', t'.Obeys law anyhow past' := by
  induction hsteps generalizing past with
  | none => exact ⟨.refl _, past, h⟩
  | more hstep _ ih =>
      obtain ⟨hdeed, hnext⟩ := Obeys.step hstep h
      obtain ⟨haside, hrest⟩ := ih hnext
      exact ⟨hdeed.aside.trans haside, hrest⟩

end Listing
end Testbench
