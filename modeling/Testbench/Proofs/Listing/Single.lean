import Testbench.Proofs.Listing.Drawn
import Testbench.Proofs.Listing.Halves

/-!
# Single — one listing, one parse

While a listing is made, others may do what they like, as long as they leave its file alone, keep
the tickets at a parser in order, and let what is cached for the file be found. Then the script is
started once at most, if the first run prints a document, and the classes and functions that are
listed belong to one document. If the first run comes to nothing, the script is started once more.

- `Runs`          : a listing and others around it;
- `Phase`         : how far a listing has come;
- `Phase.Holds`   : what it knows then, and has shown;
- `Runs.holds`    : the invariant of every run;
- `Runs.one_parse` : what a listing comes to.
-/

namespace Testbench
namespace Listing

open Halves (Aims Beside Comes Fair Halved Replies Stage Still)
open Outline (Document Node)
open Parsing (LeavesTables Notice Notifies Parted Prints Tells notices verdict)
open Sharing (Aim not_starts)
open Testbench.Task (Goes GoesOn Ran goesOn_poll)

/-! ## Runs -/

/-- What a listing of the file in the editor can come to, in any order of its steps and of what
others do in between. The editor is looked at right away. -/
inductive Runs (file : Path) (w₀ : World) : World → Work (List Node) → List (Ran World) → Prop where
  | start : Runs file w₀ w₀ (listIn w₀) [⟨w₀, World, Act.world.run⟩]
  | goes {w : World} {t t' : Work (List Node)} {log : List (Ran World)} {r : Ran World} :
      Runs file w₀ w t log → r.before = w → Goes World.isReady t r t' → Still file w₀ r.after →
        LeavesTables r → Runs file w₀ r.after t' (log ++ [r])
  | beside {w w' : World} {t : Work (List Node)} {log : List (Ran World)} :
      Runs file w₀ w t log → Beside file log w w' → Still file w₀ w' → Runs file w₀ w' t log

/-- The first step of a listing. -/
theorem Runs.of_topLevel {r : Ran World} {t : Work (List Node)} (file : Path)
    (h : Goes World.isReady topLevel r t) : Runs file r.before r.after t [r] := by
  have hlift : Goes World.isReady ((Task.lift Act.world : Work World).bind listIn) r t := h
  rcases hlift.of_lift with ⟨w, rfl, rfl⟩
  exact .start

/-! ## Phases -/

def classesOf (d : Option Document) : List Outline.Class := (d.map (·.classes)).getD []

def functionsOf (d : Option Document) : List Outline.Function :=
  (d.map (·.functionsOf none)).getD []

/-- What is left to do once the classes and functions are there, or time is up. -/
def storing (id : ProjectId) (file : Path)
    (parts : Option (List Outline.Class × List Outline.Function)) : Work (List Node) :=
  (Task.lift Act.world).bind fun w => Task.lift (store (w.root id) file parts)

/-- How far a listing has come. -/
inductive Phase where
  | begun
  | entered
  | fetching (limit : Nat) (left right : Stage)
  | fetched (parts : Option (List Outline.Class × List Outline.Function))
  | storing (root : Path) (parts : Option (List Outline.Class × List Outline.Function))
  | stored (nodes : List Node)
  | closed (nodes : List Node)

/-- What is left to do of a listing for a project. -/
def Phase.task (id : ProjectId) (a : Aim) : Phase → Work (List Node)
  | .begun => list id a.file
  | .entered => .guarded ((fetch id a.file).bind (Listing.storing id a.file)) leave .done
  | .fetching limit left right =>
    .guarded (.both ((left.task a).bind fun d => .done (classesOf d))
      ((right.task a).bind fun d => .done (functionsOf d)) (some (.until (some limit)))
      (Listing.storing id a.file)) leave .done
  | .fetched parts => .guarded (Listing.storing id a.file parts) leave .done
  | .storing root parts => .guarded (Task.lift (store root a.file parts)) leave .done
  | .stored nodes => .guarded (.done nodes) leave .done
  | .closed nodes => .done nodes

/-- The first run of the script, if there is one, prints a document. -/
def FirstPrints (os : List (Except Error Outcome)) : Prop :=
  ∀ o, os.head? = some o → ∃ d, Prints o d

/-- Classes and functions are those of documents, and of one if the first run prints one. -/
def FromOne (os : List (Except Error Outcome)) (classes : List Outline.Class)
    (functions : List Outline.Function) : Prop :=
  ∃ d d', classes = classesOf d ∧ functions = functionsOf d' ∧ (FirstPrints os → d = d')

/-- What is listed comes from classes and functions, or it is nothing. -/
def Listed (file : Path) (os : List (Except Error Outcome)) (nodes : List Node) : Prop :=
  nodes = [] ∨ ∃ root classes functions next, FromOne os classes functions ∧
    nodes = ((Node.ofModule root file classes functions).run next).1

/-- What a listing knows, and what it has shown. -/
def Phase.Holds (a : Aim) (w₀ w : World) (log : List (Ran World)) (os : List (Except Error Outcome))
    (ns : List Notice) : Phase → Prop
  | .begun | .entered => os = [] ∧ ns = []
  | .fetching _ left right => Halved a w₀ w log os ns left right
  | .fetched parts | .storing _ parts => Fair a.file os ns ∧
      ∀ classes functions, parts = some (classes, functions) → FromOne os classes functions
  | .stored nodes | .closed nodes => Fair a.file os ns ∧ Listed a.file os nodes

/-! ## Steps -/

section

variable {id : ProjectId} {a : Aim} {w₀ : World} {r : Ran World} {log : List (Ran World)}
  {os : List (Except Error Outcome)} {ns : List Notice}

/-- A step shows nothing. -/
structure Silent (a : Aim) (r : Ran World) : Prop where
  comes : Comes a.parser a.file r []
  notifies : Notifies r []

theorem silent_of_idle (a : Aim) (h : Parsing.Idle r) : Silent a r := ⟨.nothing h.starts, h.silent⟩

theorem silent_enter (a : Aim) (w : World) : Silent a ⟨w, Unit, enter.run⟩ :=
  ⟨.nothing (not_starts fun _ => rfl), fun _ => rfl⟩

theorem silent_leave (a : Aim) (w : World) : Silent a (.change w leave) :=
  ⟨.nothing (not_starts fun _ => rfl), fun _ => rfl⟩

theorem silent_store (a : Aim) (root file : Path)
    (parts : Option (List Outline.Class × List Outline.Function)) (w : World) :
    Silent a ⟨w, List Node, (store root file parts).run⟩ :=
  ⟨.nothing (not_starts fun v => (frame_store root file parts v).1),
    fun host => (frame_store root file parts { w with host := host }).2.1⟩

/-- A half that is given up leaves its place in the queue. -/
theorem abandon_half (s : Stage) {α : Type} (f : Option Document → α) :
    ((s.task a).bind fun d => (.done (f d) : Work α)).abandon =
      match s.ticket? with
      | some ticket => Parser.leave a.parser ticket
      | none => fun w => w := by
  cases s <;> rfl

theorem silent_limit (w : World) (left right : Stage) : Silent a (.change w fun s =>
    ((right.task a).bind fun d => (.done (functionsOf d) : Work _)).abandon
      (((left.task a).bind fun d => (.done (classesOf d) : Work _)).abandon s)) := by
  rw [abandon_half, abandon_half]
  cases left.ticket? <;> cases right.ticket? <;>
    exact ⟨.nothing (not_starts fun _ => rfl), fun _ => rfl⟩

theorem closed_of_task {s : Stage} {α : Type} {f : Option Document → α} {x : α}
    (h : ((s.task a).bind fun d => (.done (f d) : Work α)) = .done x) :
    ∃ d run, s = .closed d run ∧ x = f d := by
  cases s with
  | closed d run => exact ⟨d, run, rfl, (Task.done.inj h).symm⟩
  | _ => exact nomatch h

/-- A phase that follows a step, with what the step shows. -/
def Next (id : ProjectId) (a : Aim) (w₀ : World) (log : List (Ran World))
    (os : List (Except Error Outcome))
    (ns : List Notice) (r : Ran World) (t : Work (List Node)) : Prop :=
  ∃ (p : Phase) (more : List (Except Error Outcome)) (others : List Notice), t = p.task id a ∧
    Comes a.parser a.file r more ∧ Notifies r others ∧
    p.Holds a w₀ r.after (log ++ [r]) (os ++ more) (ns ++ others)

theorem Next.of_silent {p : Phase} {t : Work (List Node)} (ht : t = p.task id a) (h : Silent a r)
    (hholds : p.Holds a w₀ r.after (log ++ [r]) os ns) : Next id a w₀ log os ns r t := by
  refine ⟨p, [], [], ht, h.comes, h.notifies, ?_⟩
  rwa [List.append_nil, List.append_nil]

/-- The two halves have come to their ends. -/
theorem holds_joined {limit : Nat} {d d' : Option Document}
    {run run' : Option (Except Error Outcome)}
    {w w' : World} {log' : List (Ran World)}
    (h : (Phase.fetching limit (.closed d run) (.closed d' run')).Holds a w₀ w log os ns) :
    (Phase.fetched (some (classesOf d, functionsOf d'))).Holds a w₀ w' log' os ns := by
  have hhalved : Halved a w₀ w log os ns (.closed d run) (.closed d' run') := h
  refine ⟨hhalved.fair, fun classes functions hparts => ?_⟩
  rcases Prod.mk.inj (Option.some.inj hparts) with ⟨rfl, rfl⟩
  exact ⟨d, d', rfl, rfl, hhalved.agree⟩

/-- A step of one half, or the end of both. -/
theorem next_of_fetching {limit : Nat} {left right : Stage} {t : Work (List Node)}
    (hgoes : Goes World.isReady ((Phase.fetching limit left right).task id a) r t)
    (h : (Phase.fetching limit left right).Holds a w₀ r.before log os ns) (haims : Aims a w₀)
    (hstill : Still a.file w₀ r.before) (htables : LeavesTables r) :
    Next id a w₀ log os ns r t := by
  have hhalved : Halved a w₀ r.before log os ns left right := h
  rcases Goes.of_guarded hgoes rfl with ⟨body, hbody, rfl⟩
  -- The halves are named first, since a step of both is told apart by what they are.
  generalize hleft : ((left.task a).bind fun d => (.done (classesOf d) : Work _)) = l at hbody
  generalize hright : ((right.task a).bind fun d => (.done (functionsOf d) : Work _)) = q at hbody
  cases hbody with
  | left hstep =>
      rw [← hleft] at hstep
      rcases Goes.of_map hstep with ⟨u, hu, rfl⟩
      rcases Halves.moves_of_goes hu haims hstill with ⟨left', hm, rfl⟩
      rcases hhalved.moves hm hstill htables with ⟨more, others, hcomes, hnotifies, hafter⟩
      exact ⟨.fetching limit left' right, more, others, by rw [← hright]; rfl, hcomes,
        hnotifies, hafter⟩
  | right hstep =>
      rw [← hright] at hstep
      rcases Goes.of_map hstep with ⟨u, hu, rfl⟩
      rcases Halves.moves_of_goes hu haims hstill with ⟨right', hm, rfl⟩
      rcases hhalved.symm.moves hm hstill htables with ⟨more, others, hcomes, hnotifies, hafter⟩
      exact ⟨.fetching limit left right', more, others, by rw [← hleft]; rfl, hcomes, hnotifies,
        hafter.symm⟩
  | joined x y _ _ w =>
      rcases closed_of_task hleft with ⟨d, run, rfl, rfl⟩
      rcases closed_of_task hright with ⟨d', run', rfl, rfl⟩
      exact .of_silent rfl (silent_of_idle a (Parsing.idle_wait w)) (holds_joined h)
  | limit _ _ _ hready =>
      rw [← hleft, ← hright]
      exact .of_silent (p := .fetched none) rfl (silent_limit _ left right)
        ⟨hhalved.fair, fun _ _ hparts => nomatch hparts⟩

/-- A step takes a listing to the next phase. -/
theorem Phase.goes {p : Phase} {t : Work (List Node)} (hgoes : Goes World.isReady (p.task id a) r t)
    (h : p.Holds a w₀ r.before log os ns) (hparser : a.parser = .ofProject id) (haims : Aims a w₀)
    (hstill : Still a.file w₀ r.before) (htables : LeavesTables r) :
    Next id a w₀ log os ns r t := by
  -- The phase says what the task does next, and only the parts of a listing do more than look.
  cases p with
  | begun =>
      have hlift : Goes World.isReady ((Task.lift enter : Work Unit).bind
        fun _ => Phase.entered.task id a) r t := hgoes
      rcases hlift.of_lift with ⟨w, rfl, rfl⟩
      exact .of_silent rfl (silent_enter a w) h
  | entered =>
      rcases Goes.of_guarded hgoes rfl with ⟨body, hbody, rfl⟩
      have hlift : Goes World.isReady ((Task.lift Act.world : Work World).bind fun w =>
        (Task.joinWithin (.until (some (w.now + w.setup.config.listingMillis)))
          (Parsing.classes a.parser a.file) (Parsing.functions a.parser a.file none)).bind
            (Listing.storing id a.file)) r body := by
        rw [hparser]
        exact hbody
      rcases hlift.of_lift with ⟨w, rfl, rfl⟩
      rcases h with ⟨rfl, rfl⟩
      exact .of_silent (p := .fetching (w.now + w.setup.config.listingMillis) .fresh .fresh) rfl
        (silent_of_idle a (Parsing.idle_look w)) (Halved.fresh a w₀ _ _)
  | fetching limit left right => exact next_of_fetching hgoes h haims hstill htables
  | fetched parts =>
      rcases Goes.of_guarded hgoes rfl with ⟨body, hbody, rfl⟩
      rcases hbody.of_lift with ⟨w, rfl, rfl⟩
      exact .of_silent (p := .storing (w.root id) parts) rfl
        (silent_of_idle a (Parsing.idle_look w)) h
  | storing root parts =>
      rcases Goes.of_guarded hgoes rfl with ⟨body, hbody, rfl⟩
      rw [← Task.bind_done (Task.lift _)] at hbody
      rcases hbody.of_lift with ⟨w, rfl, rfl⟩
      refine .of_silent (p := .stored ((store root a.file parts).run w).1) rfl
        (silent_store a root a.file parts w) ⟨h.1, ?_⟩
      cases parts with
      | none => exact .inl rfl
      | some parts => exact .inr ⟨root, parts.1, parts.2, _, h.2 _ _ rfl, rfl⟩
  | stored nodes =>
      have hguarded :
          Goes World.isReady (.guarded (.done nodes) leave .done : Work (List Node)) r t :=
        hgoes
      cases hguarded with
      | inside hbody => exact nomatch hbody
      | release _ _ _ w => exact .of_silent (p := .closed nodes) rfl (silent_leave a w) h
  | closed nodes => exact nomatch hgoes

theorem Phase.beside {p : Phase} {w w' : World} (h : p.Holds a w₀ w log os ns) (haims : Aims a w₀)
    (hstill : Still a.file w₀ w) (hbeside : Beside a.file log w w') :
    p.Holds a w₀ w' log os ns := by
  cases p with
  | fetching limit left right => exact Halved.beside h haims hstill hbeside
  | _ => exact h

end

/-! ## Whole runs -/

section

variable {w₀ w : World} {editor : Host.Editor} {id : ProjectId} {t : Work (List Node)}
  {log : List (Ran World)}

theorem Runs.still {file : Path} (h : Runs file w₀ w t log) : Still file w₀ w := by
  cases h with
  | start => exact ⟨rfl, rfl⟩
  | goes _ _ _ hstill _ => exact hstill
  | beside _ _ hstill => exact hstill

/-- Whatever has happened, a listing is in some phase. -/
theorem Runs.holds (h : Runs editor.file w₀ w t log) (heditor : w₀.host.editor? = some editor)
    (hid : Registry.find? w₀ editor.file = some id) :
    ∃ (a : Aim) (p : Phase) (os : List (Except Error Outcome)) (ns : List Notice),
      a.parser = .ofProject id ∧ a.file = editor.file ∧ Aims a w₀ ∧ t = p.task id a ∧
      Replies a.parser a.file log os ∧ Tells log ns ∧ p.Holds a w₀ w log os ns := by
  -- Along the run: every step takes the listing to a next phase, and what others do leaves it in
  -- its own.
  induction h with
  | start =>
      rcases Halves.exists_aims (.ofProject id) editor.file w₀ with ⟨a, hparser, hfile, haims⟩
      have hlook := silent_of_idle a (Parsing.idle_look w₀)
      refine ⟨a, .begun, [], [], hparser, hfile, haims, ?_, .cons hlook.comes .nil,
        .cons hlook.notifies .nil, rfl, rfl⟩
      rw [listIn, heditor, Phase.task, hfile]
      simp only [hid]
  | @goes w t t' log r hruns hbefore hgoes hstill htables ih =>
      rcases ih with ⟨a, p, os, ns, hparser, hfile, haims, rfl, hreplies, htells, hholds⟩
      have hnow := hruns.still
      rw [← hbefore] at hholds hnow
      rw [← hfile] at hnow
      rcases p.goes hgoes hholds hparser haims hnow htables with
        ⟨p', more, others, rfl, hcomes, hnotifies, hafter⟩
      refine ⟨a, p', os ++ more, ns ++ others, hparser, hfile, haims, rfl, ?_, ?_, hafter⟩
      · exact hreplies.append (by simpa using Parted.cons hcomes .nil)
      · exact htells.append (by simpa using Parted.cons hnotifies .nil)
  | @beside w w' t log hruns hbeside hstill ih =>
      rcases ih with ⟨a, p, os, ns, hparser, hfile, haims, rfl, hreplies, htells, hholds⟩
      have hnow := hruns.still
      rw [← hfile] at hnow hbeside
      exact ⟨a, p, os, ns, hparser, hfile, haims, rfl, hreplies, htells,
        p.beside hholds haims hnow hbeside⟩

/-- While a listing is made the script is started twice at most, and the second time only if the
first run comes to nothing. Each run is told of once. If the first run prints a document, it is the
only one, no message is shown, and what is listed are the classes and functions of one document, or
nothing. -/
theorem Runs.one_parse (h : Runs editor.file w₀ w t log) (heditor : w₀.host.editor? = some editor)
    (hid : Registry.find? w₀ editor.file = some id) :
    ∃ (os : List (Except Error Outcome)) (ns : List Notice),
      Replies (.ofProject id) editor.file log os ∧ Tells log ns ∧ Fair editor.file os ns ∧
      (FirstPrints os → os.length ≤ 1 ∧ ns = [] ∧
        ∀ nodes, t = .done nodes → nodes = [] ∨ ∃ (root : Path) (d : Document) (next : Nat),
          nodes = ((Node.ofModule root editor.file d.classes d.functions).run next).1) := by
  rcases h.holds heditor hid
    with ⟨a, p, os, ns, hparser, hfile, haims, rfl, hreplies, htells, hholds⟩
  rw [← hparser, ← hfile]
  -- What a phase has come to so far is fair, whichever it is.
  have hfair : Fair a.file os ns := by
    cases p with
    | begun | entered =>
        rcases hholds with ⟨rfl, rfl⟩
        exact ⟨Nat.zero_le 2, nofun, 0, rfl⟩
    | fetching limit left right => exact Halved.fair hholds
    | fetched | storing | stored | closed => exact hholds.1
  refine ⟨os, ns, hreplies, htells, hfair, fun hfirst => ?_⟩
  rcases hfair.single hfirst with ⟨honce, hsilent⟩
  refine ⟨honce, hsilent, fun nodes hdone => ?_⟩
  cases p with
  | closed nodes' =>
      rw [← Task.done.inj hdone]
      rcases hholds.2
        with hnothing | ⟨root, classes, functions, next, ⟨d, d', rfl, rfl, hsame⟩, heq⟩
      · exact .inl hnothing
      · rw [← hsame hfirst] at heq
        cases d with
        | none => exact .inl heq
        | some d => exact .inr ⟨root, d, next, heq⟩
  | _ => exact nomatch hdone

end

/-! ### A listing that nobody comes between -/

/-- A world with these files where every script is answered like this. -/
structure Prepared (files : FileTree) (o : Outcome) (w : World) : Prop where
  files : w.files = files
  runner : ∃ calls, w.runner = .script ⟨[("", .outcome o)], [], calls⟩

section

variable {files : FileTree} {o : Outcome}

theorem Releases.prepared {f : World → World} (hf : Releases f) {w : World}
    (h : Prepared files o w) : Prepared files o (f w) := by
  induction hf generalizing w with
  | nothing | turn | listing => exact ⟨h.files, h.runner⟩
  | comp _ _ ihf ihg => exact ihg (ihf h)

theorem Prepared.run_launch {w : World} (h : Prepared files o w) (i : Invocation) :
    ((Work.launch i).run w).1.1 = .ok o ∧ Prepared files o ((Work.launch i).run w).2 := by
  rcases h.runner with ⟨calls, hrunner⟩
  rw [Activity.run_launch_answered hrunner]
  exact ⟨rfl, h.files, calls ++ [i], rfl⟩

theorem Deed.prepared {r : Ran World} (hdeed : Deed r) (h : Prepared files o r.before) :
    Prepared files o r.after := by
  cases hdeed with
  | look | enter | queueUp => exact ⟨h.files, h.runner⟩
  | lookUp root key file w =>
      have hframe := Activity.lookUp_frame root key file w
      exact ⟨hframe.1.trans h.files, hframe.2.symm ▸ h.runner⟩
  | launch i w => exact (h.run_launch i).2
  | conclude root key file modified v w => cases v <;> exact ⟨h.files, h.runner⟩
  | store root file fetched w =>
      rcases frame_store root file fetched w with ⟨hrunner, -, hfiles⟩
      exact ⟨hfiles.trans h.files, hrunner.symm ▸ h.runner⟩
  | release hf w => exact hf.prepared h

/-- A listing may go on for some steps. -/
theorem Runs.goesOn {file : Path} {w₀ w w' : World} {t t' : Work (List Node)}
    {log xs : List (Ran World)} {past : List PUnit} (h : Runs file w₀ w t log)
    (hobeys : t.Obeys law anyhow past) (hstart : w₀.files = files) (hprepared : Prepared files o w)
    (hgoes : GoesOn World.isReady t w xs t' w') :
    Runs file w₀ w' t' (log ++ xs) ∧ ∀ x ∈ xs, Prepared files o x.before := by
  induction hgoes generalizing log past with
  | none t w =>
      rw [List.append_nil]
      exact ⟨h, fun _ hx => absurd hx List.not_mem_nil⟩
  | @more t t' t'' x xs w' hstep _ ih =>
      rcases Task.Obeys.step hstep.step hobeys with ⟨hdeed, hnext⟩
      have hafter := Deed.prepared hdeed hprepared
      have hstill : Still file w₀ x.after := by
        refine ⟨?_, ?_⟩ <;> rw [hafter.files, hstart]
      have htables : LeavesTables x := fun root => by rw [hafter.files, hprepared.files]
      have hrun : Runs file w₀ x.after t' (log ++ [x]) := .goes h rfl hstep hstill htables
      rcases ih hrun hnext hafter with ⟨hruns, hall⟩
      rw [List.append_assoc] at hruns
      exact ⟨hruns, List.forall_mem_cons.2 ⟨hprepared, hall⟩⟩

end

/-- The left file of two is in the editor. -/
def leftEditor : Host.Editor := ⟨⟨"/left/t.py"⟩, 1⟩

/-- The folder of the file in the editor is a project. Every script is answered like this. -/
def showing (o : Outcome) : World :=
  { World.start Activity.twins (.recorder { Host.Recorder.fresh with editor := some leftEditor })
      (.script ⟨[("", .outcome o)], [], []⟩) default with
    projects := [{ (default : Project) with root := ⟨"/left"⟩ }]
    registry := [0] }

/-- The listing as far as it comes. -/
def shown (o : Outcome) : Work (List Node) × World :=
  (listIn (showing o)).poll World.isReady (showing o)

theorem prepared_showing (o : Outcome) : Prepared Activity.twins o (showing o) := ⟨rfl, [], rfl⟩

theorem editor?_showing (o : Outcome) : (showing o).host.editor? = some leftEditor := rfl

theorem find?_showing (o : Outcome) : Registry.find? (showing o) leftEditor.file = some 0 := by
  have hsame : Registry.find? (showing o) leftEditor.file =
      Registry.find? (showing Cache.Table.output) leftEditor.file := rfl
  rw [hsame]
  decide +kernel

/-- A listing that comes to its end. -/
theorem exists_shown {o : Outcome} (h : (shown o).1.result?.isSome = true) :
    ∃ nodes log, (shown o).1.result? = some nodes ∧
      Runs leftEditor.file (showing o) (shown o).2 (.done nodes) log ∧
      ∀ x ∈ log, Prepared Activity.twins o x.before := by
  have hobeys : (listIn (showing o)).Obeys law anyhow _ :=
    (obeys_topLevel [] [] (showing o) List.prefix_rfl).2
  rcases Option.isSome_iff_exists.1 h with ⟨nodes, hnodes⟩
  rcases goesOn_poll World.isReady (listIn (showing o)) (showing o) with ⟨xs, hxs⟩
  rcases Runs.start.goesOn hobeys rfl (prepared_showing o) hxs with ⟨hruns, hall⟩
  change Runs leftEditor.file (showing o) (shown o).2 (shown o).1 _ at hruns
  rw [Task.eq_done_of_result? hnodes] at hruns
  exact ⟨nodes, _, hnodes, hruns, List.forall_mem_cons.2 ⟨prepared_showing o, hall⟩⟩

/-- Whatever a listing starts is answered as prepared. -/
theorem mem_replies {files : FileTree} {o : Outcome} {p : Parser} {file : Path}
    {log : List (Ran World)}
    {os : List (Except Error Outcome)} (h : Replies p file log os)
    (hlog : ∀ x ∈ log, Prepared files o x.before) : ∀ reply ∈ os, reply = .ok o := by
  rcases h with ⟨parts, hparts, rfl⟩
  induction hparts with
  | nil => simp
  | @cons x part log parts hcomes _ ih =>
      intro reply hreply
      rw [List.flatten_cons, List.mem_append] at hreply
      rcases hreply with hnow | hlater
      · cases hcomes with
        | nothing => exact absurd hnow List.not_mem_nil
        | run v w =>
            rw [List.mem_singleton.1 hnow]
            exact ((hlog _ List.mem_cons_self).run_launch _).1
      · exact ih (fun x hx => hlog x (List.mem_cons_of_mem _ hx)) reply hlater

theorem length_shown : (shown Cache.Table.output).1.result?.map List.length = some 1 := by
  decide +kernel

/-- The script prints one class. It is run once, nobody is told anything, and the class is
listed. -/
theorem one_parse_showing : ∃ log os ns nodes,
    Runs leftEditor.file (showing Cache.Table.output) (shown Cache.Table.output).2
      (.done nodes) log ∧
      Replies (.ofProject 0) leftEditor.file log os ∧ Tells log ns ∧ os.length ≤ 1 ∧ ns = [] ∧
      nodes.length = 1 ∧ ∃ (root : Path) (d : Document) (next : Nat),
        nodes = ((Node.ofModule root leftEditor.file d.classes d.functions).run next).1 := by
  have hlength := length_shown
  have hended : (shown Cache.Table.output).1.result?.isSome = true := by
    rw [← Option.isSome_map, hlength]
    rfl
  rcases exists_shown hended with ⟨nodes, log, hresult, hruns, hprepared⟩
  rw [hresult] at hlength
  have hcount : nodes.length = 1 := Option.some.inj hlength
  rcases Runs.one_parse hruns (editor?_showing _) (find?_showing _) with
    ⟨os, ns, hreplies, htells, -, hone⟩
  -- Every run of this script prints the same.
  have hfirst : FirstPrints os := by
    intro reply hreply
    have hprinted := mem_replies hreplies hprepared reply (List.mem_of_mem_head? hreply)
    rw [hprinted]
    exact ⟨_, Parsing.verdict_eq_parsed_iff.1 Cache.Table.verdict_printed⟩
  rcases hone hfirst with ⟨honce, hsilent, hlisted⟩
  refine ⟨log, os, ns, nodes, hruns, hreplies, htells, honce, hsilent, hcount, ?_⟩
  rcases hlisted nodes rfl with hnothing | hdocument
  · rw [hnothing] at hcount
    exact nomatch hcount
  · exact hdocument

/-- The programs that were started and the errors that were shown, in front of a recorder. -/
def counts (w : World) : Option (Nat × Nat) :=
  match w.runner, w.host with
  | .script s, .recorder r => some (s.calls.length, r.events.countP fun
    | .error _ => true
    | _ => false)
  | _, _ => none

/-- The script fails. One listing runs it twice and shows two errors. -/
theorem two_parses_showing : ∃ log nodes,
    Runs leftEditor.file (showing Parsing.failure) (shown Parsing.failure).2 (.done nodes) log ∧
      counts (showing Parsing.failure) = some (0, 0) ∧
      counts (shown Parsing.failure).2 = some (2, 2) := by
  have hended : (shown Parsing.failure).1.result?.isSome = true := by decide +kernel
  rcases exists_shown hended with ⟨nodes, log, -, hruns, -⟩
  exact ⟨log, nodes, hruns, by decide +kernel, by decide +kernel⟩

end Listing
end Testbench
