import Testbench.Proofs.Listing.Steps
import Testbench.Proofs.Outline.Tree
import Testbench.Proofs.Task.Plays

/-!
# Drawn — what a listing comes to, and what it leaves alone

The entries of a listing depict the classes and functions of one file, or there are none. While they
are found no environment is touched, and no program is started but the script that prints outlines.
A listing comes to an end at the latest when its time is up.

- `Drawn`, `DrawnFor`       : the last listing is one of the file that it was made for;
- `drawn_of_plays`          : the entries of a new listing;
- `Spares`, `Deed.spares`   : what no listing changes of environments;
- `Reads`, `reading`        : listings start no other program;
- `isDone_topLevel`         : a listing whose time is up is at its end.
-/

namespace Testbench
namespace Task

variable {ω σ : Type} {α β γ : Type}

/-! ## Polls of tasks that end in acts -/

/-- One task after another is polled as far as the first one comes, or the second. -/
theorem poll_bind (ready : ω → σ → Bool) (t : Task ω σ β) (f : β → Task ω σ α) (s : σ) :
    (t.bind f).poll ready s = match (t.poll ready s).1.result? with
      | some b => (f b).poll ready (t.poll ready s).2
      | none => ((t.poll ready s).1.bind f, (t.poll ready s).2) := by
  -- On the first task: it is polled as far as it comes, and the second one from there.
  induction t generalizing s with
  | done b => rfl
  | act g next ih => exact ih (g s).1 f (g s).2
  | await w next ih =>
      rw [bind, poll, poll]
      split
      · exact ih f s
      · rfl
  | both left right limit next _ _ ih =>
      rw [bind, poll, poll]
      dsimp only
      split
      · exact ih _ f _
      · split
        · exact ih _ f _
        · rfl
  | guarded body release next _ ih =>
      rw [bind, poll, poll]
      dsimp only
      split
      · exact ih _ f _
      · rfl

/-- Two tasks at once, with what follows once they are done or their limit has come. -/
theorem poll_both {ready : ω → σ → Bool} (left : Task ω σ β) (right : Task ω σ γ) (limit : Option ω)
    {next : Option (β × γ) → Task ω σ α} (hnext : ∀ x s, ((next x).poll ready s).1.isDone = true)
    (s : σ) : ∃ left' right' s' xs ys, Steps left s xs left' s' ∧
      ∃ s'', Steps right s' ys right' s'' ∧
        (((both left right limit next).poll ready s).1.isDone = true ∨
          (limit.any fun w => ready w s'') = false ∧
            (both left right limit next).poll ready s = (.both left' right' limit next, s'')) := by
  obtain ⟨xs, hleft⟩ := steps_poll ready left s
  obtain ⟨ys, hright⟩ := steps_poll ready right (left.poll ready s).2
  refine ⟨_, _, _, xs, ys, hleft, _, hright, ?_⟩
  rcases poll_both_cases ready left right limit next s with
    ⟨a, b, -, -, hpoll⟩ | ⟨w, -, -, hpoll⟩ | ⟨hlimit, -, hpoll⟩
  · exact .inl (hpoll ▸ hnext _ _)
  · exact .inl (hpoll ▸ hnext _ _)
  · exact .inr ⟨hlimit, hpoll⟩

end Task

namespace Listing

open Outline (Depicts Document Node)
open Testbench.Task (Obeys Plays Ran Step Steps)

/-! ## Entries of a file -/

/-- Entries depict what is declared in the module of a file. -/
def DrawnFor (file : Path) (nodes : List Node) : Prop :=
  ∃ (root : Path) (d : Document), List.Forall₂ (Depicts root file) d.tops nodes

theorem drawnFor_nil (file : Path) : DrawnFor file [] := ⟨⟨""⟩, .empty, .nil⟩

/-- The last listing is one of the file that it was made for. -/
def Drawn (w : World) : Prop := ∀ l, w.listing.last = some l → DrawnFor l.file l.nodes

theorem run_enrich (nodes : List Node) (w : World) :
    ∃ jobs, (enrich nodes).run w = ((), { w with jobs := jobs }) := by
  unfold enrich
  split
  · exact ⟨_, rfl⟩
  · exact ⟨_, rfl⟩

/-- What is stored is drawn, and is the last listing then. -/
theorem run_store (root file : Path)
    (fetched : Option (List Outline.Class × List Outline.Function)) (w : World) :
    ∃ nodes jobs next, DrawnFor file nodes ∧ (store root file fetched).run w = (nodes, { w with
      jobs := jobs
      listing := { w.listing with last := some ⟨file, nodes⟩, nextNode := next } }) := by
  cases fetched with
  | none => exact ⟨[], _, _, drawnFor_nil file, rfl⟩
  | some parts =>
      obtain ⟨classes, functions⟩ := parts
      have hdraws : Outline.Draws root file (Document.tops ⟨none, classes, functions, []⟩)
          (Node.ofModule root file classes functions) := Outline.draws_ofModule _
      obtain ⟨nodes, hbuild, hdepicts, -⟩ := hdraws w.listing.nextNode
      let build := (Node.ofModule root file classes functions).run w.listing.nextNode
      obtain ⟨jobs, henrich⟩ := run_enrich build.1
        { w with listing := { w.listing with nextNode := build.2, last := some ⟨file, build.1⟩ } }
      have hnodes : build.1 = nodes := congrArg Prod.fst hbuild
      refine ⟨build.1, jobs, build.2, ⟨root, _, hnodes ▸ hdepicts⟩, ?_⟩
      have hrun : (store root file (some (classes, functions))).run w =
          (build.1, ((enrich build.1).run
        { w with listing := { w.listing with nextNode := build.2,
                                             last := some ⟨file, build.1⟩ } }).2) := rfl
      rw [hrun, henrich]

theorem frame_store (root file : Path)
    (fetched : Option (List Outline.Class × List Outline.Function)) (w : World) :
    ((store root file fetched).run w).2.runner = w.runner ∧
      ((store root file fetched).run w).2.host = w.host ∧
      ((store root file fetched).run w).2.files = w.files := by
  obtain ⟨nodes, jobs, next, -, hrun⟩ := run_store root file fetched w
  rw [hrun]
  exact ⟨rfl, rfl, rfl⟩

/-! ## What no listing changes -/

/-- Environments stay as they are, and so does the time. The last listing does too, or is a new
one. -/
structure Spares (w w' : World) : Prop where
  environments : w'.projects.map Project.env = w.projects.map Project.env
  suppressed : w'.suppressed = w.suppressed
  now : w'.now = w.now
  last : w'.listing.last = w.listing.last ∨
    ∃ l, w'.listing.last = some l ∧ DrawnFor l.file l.nodes

namespace Spares

variable {w w' w'' : World}

theorem refl (w : World) : Spares w w := ⟨rfl, rfl, rfl, .inl rfl⟩

theorem trans (h : Spares w w') (h' : Spares w' w'') : Spares w w'' := by
  refine ⟨h'.environments.trans h.environments, h'.suppressed.trans h.suppressed,
    h'.now.trans h.now, ?_⟩
  rcases h'.last with hsame | hnew
  · rw [hsame]
    exact h.last
  · exact .inr hnew

theorem drawn (h : Spares w w') (hdrawn : Drawn w) : Drawn w' := by
  rcases h.last with hsame | ⟨l, hlast, hnew⟩
  · intro l hl
    exact hdrawn l (hsame ▸ hl)
  · intro l' hl'
    rw [hlast] at hl'
    exact Option.some.inj hl' ▸ hnew

end Spares

theorem Releases.spares {f : World → World} (h : Releases f) (w : World) : Spares w (f w) := by
  induction h generalizing w with
  | nothing => exact .refl w
  | turn | listing => exact ⟨rfl, rfl, rfl, .inl rfl⟩
  | comp _ _ ihf ihg => exact (ihf w).trans (ihg _)

theorem Deed.spares {x : Ran World} (h : Deed x) : Spares x.before x.after := by
  cases h with
  | look w => exact .refl w
  | enter w => exact ⟨rfl, rfl, rfl, .inl rfl⟩
  | queueUp p w => exact ⟨rfl, rfl, rfl, .inl rfl⟩
  | lookUp root key file w =>
      change Spares w ((Parsing.lookUp root key file).run w).2
      cases htime : ProjectFiles.modifiedMillis w.files file with
      | error cause =>
          rw [Activity.run_lookUp_error htime]
          exact .refl w
      | ok modified =>
          rw [Activity.run_lookUp_ok htime]
          exact ⟨rfl, rfl, rfl, .inl rfl⟩
  | launch i w =>
      change Spares w ((Work.launch i).run w).2
      rw [Activity.run_launch]
      cases w.runner with
      | script s => exact ⟨rfl, rfl, rfl, .inl rfl⟩
      | files => exact ⟨rfl, rfl, rfl, .inl rfl⟩
  | conclude root key file modified v w => cases v <;> exact ⟨rfl, rfl, rfl, .inl rfl⟩
  | store root file fetched w =>
      -- The one deed that replaces the last listing.
      obtain ⟨nodes, jobs, next, hdrawn, hrun⟩ := run_store root file fetched w
      change Spares w ((Listing.store root file fetched).run w).2
      rw [hrun]
      exact ⟨rfl, rfl, rfl, .inr ⟨_, rfl, hdrawn⟩⟩
  | release hf w => exact hf.spares w

/-! ## Programs -/

/-- A step that starts no program and writes no file, unless it starts the script that prints the
outline of a file. -/
def Reads (x : Ran World) : Prop :=
  (x.after.runner = x.before.runner ∧ x.after.files = x.before.files) ∨
    ∃ (p : Parser) (v : World) (file : Path),
      x = ⟨x.before, _, (Work.launch (p.invocation v file)).run⟩

theorem Releases.reads {f : World → World} (h : Releases f) (w : World) :
    (f w).runner = w.runner ∧ (f w).files = w.files := by
  induction h generalizing w with
  | nothing | turn | listing => exact ⟨rfl, rfl⟩
  | comp _ _ ihf ihg => exact ⟨(ihg _).1.trans (ihf w).1, (ihg _).2.trans (ihf w).2⟩

/-- Listings are free to do their deeds, but start one script only. -/
def reading : Law World PUnit where
  allows _ x := Deed x ∧ Reads x
  note _ := ⟨⟩
  mild := Releases
  allows_mild hf := ⟨.release hf _, .inl (hf.reads _)⟩
  mild_id := .nothing
  mild_comp := .comp

theorem admits_reading : Admits reading where
  look _ w := ⟨.look w, .inl ⟨rfl, rfl⟩⟩
  enter _ w := ⟨.enter w, .inl ⟨rfl, rfl⟩⟩
  queueUp _ p w := ⟨.queueUp p w, .inl ⟨rfl, rfl⟩⟩
  lookUp _ root key file w := ⟨.lookUp root key file w,
    .inl (Activity.lookUp_frame root key file w).symm⟩
  launch _ p v w file := ⟨.launch _ w, .inr ⟨p, v, file, rfl⟩⟩
  conclude _ root key file modified v w := ⟨.conclude root key file modified v w, by
    cases v <;> exact .inl ⟨rfl, rfl⟩⟩
  store _ root file fetched w := ⟨.store root file fetched w,
    .inl ⟨(frame_store root file fetched w).1, (frame_store root file fetched w).2.2⟩⟩
  release hf := hf

/-! ## What a listing comes to -/

/-- The entries of a listing are those of the file that is in the editor when it begins. -/
theorem drawn_of_plays {others : World → World → Prop} {w w' : World} {log : List (Ran World)}
    {nodes : List Node} (h : Plays others topLevel w log nodes w') :
    (∀ e, w.host.editor? = some e → DrawnFor e.file nodes) ∧
      (w.host.editor? = none → nodes = []) := by
  obtain ⟨rest, -, hlist⟩ := Plays.of_act h
  change Plays others (listIn w) w rest nodes w' at hlist
  unfold listIn at hlist
  cases heditor : w.host.editor? with
  | none =>
      simp only [heditor] at hlist
      obtain ⟨-, rfl, -⟩ := Plays.of_done hlist
      exact ⟨fun e he => (nomatch he), fun _ => rfl⟩
  | some editor =>
      simp only [heditor] at hlist
      refine ⟨fun e he => ?_, fun hnone => nomatch hnone⟩
      obtain rfl := Option.some.inj he
      cases hfind : Registry.find? w editor.file with
      | none =>
          simp only [hfind] at hlist
          obtain ⟨-, rfl, -⟩ := Plays.of_done hlist
          exact drawnFor_nil _
      | some id =>
          simp only [hfind] at hlist
          -- What is stored last inside the scope of the listing is its result.
          obtain ⟨inside, -, hscope⟩ := Plays.of_act hlist
          obtain ⟨_, found, _, _, _, -, hbody, -, hlast⟩ := Plays.of_guarded hscope
          obtain ⟨-, rfl, -⟩ := Plays.of_done hlast
          obtain ⟨_, fetched, w₁, _, -, -, hstoring⟩ := Plays.bind hbody
          obtain ⟨_, -, hstore⟩ := Plays.of_act hstoring
          obtain ⟨_, -, hdone⟩ := Plays.of_act hstore
          obtain ⟨-, rfl, -⟩ := Plays.of_done hdone
          obtain ⟨nodes, jobs, next, hdrawn, hrun⟩ := run_store (w₁.root id) editor.file fetched w₁
          have hresult : ((store (w₁.root id) editor.file fetched).run w₁).1 = nodes := by rw [hrun]
          exact hresult ▸ hdrawn

/-! ## The time of a listing -/

/-- A part of a listing, however far it is. -/
def IsPart {α : Type} (t : Work α) : Prop := ∃ post past, t.Obeys law post past

theorem IsPart.steps {α : Type} {t t' : Work α} {w w' : World} {xs : List (Ran World)}
    (h : IsPart t) (hsteps : Steps t w xs t' w') : IsPart t' ∧ w'.now = w.now := by
  induction hsteps with
  | none => exact ⟨h, rfl⟩
  | more hstep _ ih =>
      obtain ⟨post, past, hobeys⟩ := h
      obtain ⟨hdeed, hnext⟩ := Obeys.step hstep hobeys
      obtain ⟨hpart, hnow⟩ := ih ⟨post, _, hnext⟩
      exact ⟨hpart, hnow.trans (Deed.spares hdeed).now⟩

/-- What is left to do once the parts are fetched or given up. -/
def keeping (id : ProjectId) (file : Path)
    (fetched : Option (List Outline.Class × List Outline.Function)) : Work (List Node) :=
  (Task.lift Act.world).bind fun w => Task.lift (store (w.root id) file fetched)

/-- A listing whose parts are being fetched. -/
def fetching (id : ProjectId) (file : Path) (limit : Nat) (left : Work (List Outline.Class))
    (right : Work (List Outline.Function)) : Work (List Node) :=
  .guarded (.both left right (some (.until (some limit))) (keeping id file)) leave .done

/-- It comes to its end or goes on fetching, and the latter only before its time is up. -/
theorem poll_fetching {id : ProjectId} {file : Path} {limit : Nat}
    {left : Work (List Outline.Class)} {right : Work (List Outline.Function)}
    (hleft : IsPart left) (hright : IsPart right) (w : World) :
    ((fetching id file limit left right).poll World.isReady w).1.isDone = true ∨
      w.now < limit ∧ ∃ left' right', IsPart left' ∧ IsPart right' ∧
        ((fetching id file limit left right).poll World.isReady w).1 =
          fetching id file limit left' right' := by
  have hnext : ∀ fetched w, ((keeping id file fetched).poll World.isReady w).1.isDone = true :=
    fun _ _ => rfl
  obtain ⟨left', right', w₁, xs, ys, hxs, w₂, hys, hpoll⟩ :=
    Task.poll_both left right (some (.until (some limit))) hnext w
  obtain ⟨hleft', hnow⟩ := hleft.steps hxs
  obtain ⟨hright', hnow'⟩ := hright.steps hys
  rw [fetching, Task.poll]
  dsimp only
  -- With both parts there, what is kept is told at once. Before, only the time can end it.
  rcases hpoll with hdone | ⟨hlimit, hopen⟩
  · left
    cases hresult : ((Task.both left right (some (.until (some limit)))
        (keeping id file)).poll World.isReady w).1 with
    | done nodes => rfl
    | _ => rw [hresult] at hdone; cases hdone
  · refine .inr ⟨?_, left', right', hleft', hright', ?_⟩
    · rw [← hnow, ← hnow']
      simpa [World.isReady] using hlimit
    · rw [hopen]
      rfl

/-- A listing is at its end, at the latest when it is polled after its time is up. -/
theorem isDone_topLevel (w : World) : (topLevel.poll World.isReady w).1.isDone = true ∨
    ∀ w', w.now + w.setup.config.listingMillis ≤ w'.now →
      ((topLevel.poll World.isReady w).1.poll World.isReady w').1.isDone = true := by
  have hlook : topLevel.poll World.isReady w = (listIn w).poll World.isReady w := rfl
  rw [hlook]
  unfold listIn
  split
  · exact .inl rfl
  · rename_i editor _
    split
    · exact .inl rfl
    · rename_i id _
      let limit := w.now + w.setup.config.listingMillis
      let left := Parsing.classes (.ofProject id) editor.file
      let right := Parsing.functions (.ofProject id) editor.file none
      have hfetch : ((fetch id editor.file).bind (keeping id editor.file)).poll World.isReady
          (enter.run w).2 = (Task.both left right (some (.until (some limit)))
            (keeping id editor.file)).poll World.isReady (enter.run w).2 := rfl
      -- The listing is begun, and both its parts are polled before anybody waits.
      have hentered : (list id editor.file).poll World.isReady w =
          (fetching id editor.file limit left right).poll World.isReady (enter.run w).2 := by
        change (Task.guarded ((fetch id editor.file).bind (keeping id editor.file))
          leave .done).poll
          World.isReady (enter.run w).2 = _
        rw [fetching, Task.poll, Task.poll, hfetch]
      rw [hentered]
      obtain ⟨-, _, _, hleft, hright, -⟩ :=
        admits_law.obeys_fetchOf id editor.file [] [] w List.prefix_rfl
      rcases poll_fetching ⟨_, _, hleft⟩ ⟨_, _, hright⟩ (enter.run w).2 with
        hdone | ⟨-, left', right', hleft', hright', hopen⟩
      · exact .inl hdone
      · refine .inr fun w' hlate => ?_
        rw [hopen]
        rcases poll_fetching hleft' hright' w' with hdone | ⟨hearly, -⟩
        · exact hdone
        · exact absurd hlate (Nat.not_le.2 hearly)

end Listing
end Testbench
