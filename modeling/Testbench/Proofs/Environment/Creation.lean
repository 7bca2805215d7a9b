import Testbench.Project
import Testbench.Proofs.Task

/-!
# Creation — how many environments are made for a project

Whether making an environment was tried is noted with the project, and a call that finds it noted
makes none. But a call notes it only when the question for the folder is answered, and looks at it
before that question is put. So two calls make environments if each looks before the other has its
answer, and only then.

- `tried?`, `Keeps`     : the note, which nobody takes back;
- `Spares`, `IsSpare`   : acts that make no environment;
- `Progress`, `Advances` : how far a call has come, and its steps;
- `Within`              : what a call can still do, whatever happens between its steps;
- `Reached`, `Past`     : calls in any order of their steps, and what a call has done;
- `Reached.creations`   : who makes an environment, and how often;
- `creations_pair`      : two questions at once, and two environments.
-/

namespace Testbench

/-- The terminals that a recorder has. -/
def Host.recorded : Host → List Host.RecordedTerminal
  | .recorder r => r.terminals
  | .console _ => []

namespace Environment
namespace Creation

open Testbench.Task (Ran Step Steps eq_done_of_result? steps_poll)

/-! ## The note -/

/-- Whether making an environment was tried, if there is the project. -/
def tried? (id : ProjectId) (w : World) : Option Bool :=
  (w.projects[id]?).map (·.env.initialized)

/-- The project stays, and what was tried stays tried. -/
structure Keeps (id : ProjectId) (w w' : World) : Prop where
  there : (tried? id w).isSome = true → (tried? id w').isSome = true
  tried : tried? id w = some true → tried? id w' = some true

section

variable {id : ProjectId} {w w' w'' : World}

theorem Keeps.trans (h : Keeps id w w') (h' : Keeps id w' w'') : Keeps id w w'' :=
  ⟨fun hthere => h'.there (h.there hthere), fun htried => h'.tried (h.tried htried)⟩

theorem Keeps.of_projects (h : w'.projects = w.projects) : Keeps id w w' := by
  have hsame : tried? id w' = tried? id w := by rw [tried?, tried?, h]
  exact ⟨fun hthere => hsame ▸ hthere, fun htried => hsame ▸ htried⟩

theorem Keeps.updateProject (other : ProjectId) {f : Project → Project}
    (hf : ∀ p, p.env.initialized = true → (f p).env.initialized = true) :
    Keeps id w (w.updateProject other f) := by
  have hafter : tried? id (w.updateProject other f) =
      (w.projects[id]?).map fun p => (if other = id then f p else p).env.initialized := by
    rw [tried?, World.updateProject, List.getElem?_modify, Option.map_eq_map, Option.map_map]
    rfl
  cases hproject : w.projects[id]? with
  | none => exact ⟨by simp [tried?, hproject], by simp [tried?, hproject]⟩
  | some p =>
      rw [hproject] at hafter
      refine ⟨fun _ => by simp [hafter], fun htried => ?_⟩
      have hp : p.env.initialized = true := by simpa [tried?, hproject] using htried
      rw [hafter, Option.map_some]
      by_cases hid : other = id
      · rw [if_pos hid, hf p hp]
      · rw [if_neg hid, hp]

/-- Who finds the note makes no environment. -/
theorem initialized_of_tried? (h : tried? id w = some true) :
    (w.project id).env.initialized = true := by
  rcases Option.map_eq_some_iff.1 h with ⟨p, hp, htried⟩
  rw [World.project, hp]
  exact htried

end

/-! ## Acts that make no environment -/

/-- An act keeps the note, and sends nothing where no project is open. -/
structure Spares (id : ProjectId) {α : Type} (m : Act α) : Prop where
  keeps : ∀ w, Keeps id w (m.run w).2
  quiet : ∀ w : World, w.projects = [] →
    (m.run w).2.projects = [] ∧ (m.run w).2.host.recorded = w.host.recorded

namespace Spares

variable {id : ProjectId} {α β : Type}

theorem pure (a : α) : Spares id (Pure.pure a : Act α) :=
  ⟨fun _ => .of_projects rfl, fun _ h => ⟨h, rfl⟩⟩

theorem bind {m : Act α} {f : α → Act β} (hm : Spares id m) (hf : ∀ a, Spares id (f a)) :
    Spares id (m >>= f) := by
  refine ⟨fun w => (hm.keeps w).trans ((hf _).keeps _), ?_⟩
  intro w hnone
  rcases hm.quiet w hnone with ⟨hnone₁, hsame₁⟩
  rcases (hf (m.run w).1).quiet _ hnone₁ with ⟨hnone₂, hsame₂⟩
  exact ⟨hnone₂, hsame₂.trans hsame₁⟩

theorem world : Spares id Act.world := ⟨fun _ => .of_projects rfl, fun _ h => ⟨h, rfl⟩⟩

/-- A change that concerns neither projects nor the host. -/
theorem change {f : World → World} (hprojects : ∀ w, (f w).projects = w.projects)
    (hhost : ∀ w, (f w).host = w.host) : Spares id (modify f : Act Unit) :=
  ⟨fun w => .of_projects (hprojects w),
    fun w h => ⟨(hprojects w).trans h, congrArg Host.recorded (hhost w)⟩⟩

theorem updateProject (other : ProjectId) {f : Project → Project}
    (hf : ∀ p, p.env.initialized = true → (f p).env.initialized = true) :
    Spares id (modify (World.updateProject other f) : Act Unit) := by
  refine ⟨fun w => .updateProject other hf, ?_⟩
  intro w hnone
  have hafter : (w.updateProject other f).projects = w.projects.modify other f := rfl
  refine ⟨?_, rfl⟩
  change (w.updateProject other f).projects = []
  rw [hafter, hnone, List.modify_nil]

theorem onFiles (change : FileTree → α × FileTree) : Spares id (Act.onFiles change) :=
  ⟨fun _ => .of_projects rfl, fun _ h => ⟨h, rfl⟩⟩

theorem tell {message : Host → Host} (h : ∀ host, (message host).recorded = host.recorded) :
    Spares id (Act.tell message) :=
  ⟨fun _ => .of_projects rfl, fun w hnone => ⟨hnone, h w.host⟩⟩

theorem ask {question : Host → α × Host}
    (h : ∀ host, (question host).2.recorded = host.recorded) : Spares id (Act.ask question) :=
  ⟨fun _ => .of_projects rfl, fun w hnone => ⟨hnone, h w.host⟩⟩

theorem launch (i : Invocation) : Spares id (Work.launch i) := by
  have hframe : ∀ w, ((Work.launch i).run w).2.projects = w.projects ∧
      ((Work.launch i).run w).2.host = w.host := by
    intro w
    rcases w with ⟨files, now, host, runner, setup, cache, suppressed, projects, registry, listing,
      lenses, jobs, nextTicket, flusher⟩
    cases runner with
    | script s => exact ⟨rfl, rfl⟩
    | files => exact ⟨rfl, rfl⟩
  exact ⟨fun w => .of_projects (hframe w).1,
    fun w hnone => ⟨(hframe w).1.trans hnone, congrArg Host.recorded (hframe w).2⟩⟩

end Spares

/-! ### Messages and questions -/

theorem recorded_tell (event : Host.Event) (change : Host.Console → Host.Console) (host : Host) :
    (host.tell event change).recorded = host.recorded := by
  cases host <;> rfl

theorem recorded_prompt (message : String) (choices : Host.Choices) (host : Host) :
    (Host.prompt message choices host).2.recorded = host.recorded := by
  cases host with
  | recorder r =>
      rcases r with ⟨prompts, picks, inputs, events, editor, unsaved, terminals⟩
      cases prompts <;> rfl
  | console c => rfl

theorem recorded_pick (message : String) (items : List String) (host : Host) :
    (Host.pick message items host).2.recorded = host.recorded := by
  cases host with
  | recorder r =>
      rcases r with ⟨prompts, picks, inputs, events, editor, unsaved, terminals⟩
      cases picks <;> rfl
  | console c => rfl

theorem recorded_input (message default : String) (complaint : String → Option String)
    (host : Host) : (Host.input message default complaint host).2.recorded = host.recorded := by
  cases host with
  | recorder r =>
      have htaken : (Host.recorder (r.record (.input message)).takeInput.2).recorded =
          (Host.recorder r).recorded := by
        rw [Host.Recorder.takeInput]
        cases (r.record (.input message)).inputs <;> rfl
      rcases hinput : (r.record (.input message)).takeInput with ⟨answer, r₁⟩
      rw [hinput] at htaken
      simp only [Host.input, hinput]
      cases answer.bind complaint with
      | none => exact htaken
      | some text => exact htaken
  | console c => rfl

/-! ### The acts of the calls -/

section

variable {id : ProjectId}

theorem spares_update {f : State → State}
    (hf : ∀ s, s.initialized = true → (f s).initialized = true) : Spares id (update id f) :=
  .updateProject id fun p hp => hf p.env hp

theorem spares_setPhase (phase : Phase) : Spares id (setPhase id phase) :=
  spares_update fun _ h => h

theorem spares_state : Spares id (state id) := Spares.world.bind fun _ => .pure _

theorem spares_rootOf : Spares id (rootOf id) := Spares.world.bind fun _ => .pure _

theorem keeps_send (line : String) (w : World) : Keeps id w ((send id line).run w).2 :=
  .of_projects rfl

theorem run_activate (w : World) : (activate id).run w =
    (match (w.project id).env.env with
      | some env => do send id (TerminalLine.activate (← Act.world).setup.platform env)
      | none => pure () : Act Unit).run w := rfl

theorem project_of_none {w : World} (h : w.projects = []) : w.project id = default := by
  rw [World.project, h]
  rfl

/-- Where there is no project there is no environment to enter. -/
theorem spares_activate : Spares id (activate id) := by
  refine ⟨fun w => ?_, fun w hnone => ?_⟩
  · rw [run_activate]
    cases (w.project id).env.env with
    | none => exact .of_projects rfl
    | some env => exact .of_projects rfl
  · rw [run_activate, project_of_none hnone]
    exact ⟨hnone, rfl⟩

theorem spares_enter (env : Path) : Spares id (enter id env) :=
  Spares.bind (spares_update fun _ h => h) fun _ => spares_activate

theorem spares_nameInterpreter (env : Path) : Spares id (nameInterpreter id env) :=
  Spares.world.bind fun _ => .onFiles _

theorem spares_adopt (name : String) : Spares id (adopt id name) := by
  refine spares_rootOf.bind fun root => ?_
  refine (spares_nameInterpreter _).bind fun outcome => ?_
  cases outcome with
  | error cause => exact .pure _
  | ok _ => exact (spares_enter _).bind fun _ => .pure _

theorem spares_suppress : Spares id suppress := .change (fun _ => rfl) fun _ => rfl

theorem spares_concludeTool (command : String) (outcome : Except Error Outcome) :
    Spares id (concludeTool id command outcome) := by
  unfold concludeTool
  extract_lets missing
  have hmissing : ∀ failure, Spares id (missing failure) := by
    intro failure
    refine (Spares.tell (recorded_tell _ _)).bind fun _ => ?_
    refine spares_state.bind fun s => ?_
    dsimp only
    refine Spares.bind (spares_update fun _ h => h) fun _ => ?_
    split
    · exact (Spares.tell (recorded_tell _ _)).bind fun _ => .pure _
    · exact .pure _
  -- A run that could not be started and one that failed end in the same message.
  cases outcome with
  | error cause => exact hmissing cause.message
  | ok o =>
      dsimp only
      split
      · exact hmissing o.stderrText
      · split
        · refine Spares.bind (spares_update fun _ h => h) fun _ => ?_
          exact (Spares.tell (recorded_tell _ _)).bind fun _ => .pure _
        · exact (Spares.tell (recorded_tell _ _)).bind fun _ => .pure _

theorem spares_startWatching : Spares id (Project.startWatching id) := by
  refine Spares.world.bind fun w => ?_
  split
  · exact .updateProject id fun _ h => h
  · exact .pure _

end

/-! ## The act that makes one -/

/-- A world without projects, files and settings, with the terminal of a project that is not
there. -/
def bare : World :=
  .start ⟨⟨"/"⟩, 0, []⟩
    (.recorder { Host.Recorder.fresh with
      terminals := [⟨Terminal.nameFor (default : Project).root, ⟨"/"⟩, [], 0, false⟩] })
    (.script .empty) default

/-- An act keeps the note and makes no environment, which it would even in the bare world. -/
structure IsSpare (id : ProjectId) {α : Type} (f : World → α × World) : Prop where
  keeps : ∀ w, Keeps id w (f w).2
  quiet : (f bare).2.host.recorded = bare.host.recorded

section

variable {id : ProjectId}

theorem Spares.isSpare {α : Type} {m : Act α} (h : Spares id m) : IsSpare id m.run :=
  ⟨h.keeps, (h.quiet bare rfl).2⟩

theorem run_world (w : World) : Act.world.run w = (w, w) := rfl

theorem run_bind {α β : Type} (m : Act α) (f : α → Act β) (w : World) :
    (m >>= f).run w = (f (m.run w).1).run (m.run w).2 := rfl

/-- There are no requirements to install. -/
theorem isSpare_install : IsSpare id (install id).run := by
  refine ⟨fun w => ?_, ?_⟩
  · rw [install, run_bind, run_world]
    dsimp only
    split
    · exact keeps_send _ w
    · exact .of_projects rfl
  · have hroot : bare.root id = (default : Project).root := by
      rw [World.root, project_of_none rfl]
    have hmissing : bare.files.isFile (requirementsFile (default : Project).root) = false := by
      decide +kernel
    rw [install, run_bind, run_world]
    simp only [hroot, hmissing, Bool.false_eq_true, if_false]
    rfl

/-- What is done once the line that makes an environment is sent. -/
def afterCreation (id : ProjectId) (env : Path) : Act (Except Error Unit) := do
  match ← nameInterpreter id env with
  | .error cause => do
    let message := "Create env dir failed: " ++ cause.message
    Act.tell (Host.showError message)
    setPhase id .outside
    pure (.error (.environment message))
  | .ok () => do
    enter id env
    pure (.ok ())

theorem spares_afterCreation (env : Path) : Spares id (afterCreation id env) := by
  refine (spares_nameInterpreter env).bind fun outcome => ?_
  cases outcome with
  | error cause =>
      refine (Spares.tell (recorded_tell _ _)).bind fun _ => ?_
      exact (spares_setPhase _).bind fun _ => .pure _
  | ok _ => exact (spares_enter env).bind fun _ => .pure _

theorem makeEnv_eq (folder : String) : makeEnv id folder = (do
    let w ← Act.world
    let env := (w.root id).joinText (Text.trim folder)
    send id (TerminalLine.createVirtualenv (interpreter w (w.root id)) env)
    afterCreation id env) := by
  unfold makeEnv afterCreation
  rfl

/-- The line is sent first. -/
theorem run_makeEnv (folder : String) (w : World) : (makeEnv id folder).run w =
    (afterCreation id ((w.root id).joinText (Text.trim folder))).run
      ((send id (TerminalLine.createVirtualenv (interpreter w (w.root id))
        ((w.root id).joinText (Text.trim folder)))).run w).2 := by
  rw [makeEnv_eq, run_bind, run_world, run_bind]

theorem keeps_makeEnv (folder : String) (w : World) : Keeps id w ((makeEnv id folder).run w).2 := by
  rw [run_makeEnv]
  exact (keeps_send _ w).trans ((spares_afterCreation _).keeps _)

/-- The bare world takes notice of it. -/
theorem not_isSpare_makeEnv (folder : String) : ¬ IsSpare id (makeEnv id folder).run := by
  intro h
  -- The host of the bare world has a terminal, which would stay as it is; but a line is sent to it.
  have hquiet := h.quiet
  rw [run_makeEnv] at hquiet
  generalize TerminalLine.createVirtualenv _ _ = line at hquiet
  have hsent : ((send id line).run bare).2.host.recorded =
      [⟨Terminal.nameFor (default : Project).root, ⟨"/"⟩, [line], 0, false⟩] := by
    have hhost : ((send id line).run bare).2.host =
        Host.send (Terminal.nameFor (bare.root id)) line bare.host := rfl
    rw [hhost, World.root, project_of_none rfl]
    rfl
  have hspares : Spares id (afterCreation id ((bare.root id).joinText (Text.trim folder))) :=
    spares_afterCreation _
  have hrest := (hspares.quiet ((send id line).run bare).2 rfl).2
  have hbare : bare.host.recorded =
      [⟨Terminal.nameFor (default : Project).root, ⟨"/"⟩, [], 0, false⟩] := rfl
  rw [hrest, hsent, hbare] at hquiet
  simp at hquiet

end

/-! ## How far a call has come -/

/-- A call has looked for the note and found none; it has put its question; it has noted that making
an environment was tried, and may make one; or it has made one. -/
inductive Progress where
  | fresh
  | passed
  | asked
  | entitled
  | spent
  deriving DecidableEq, Repr

def folderMessage : String := "Virtual environment folder:"

/-- The note that a call makes once its question is answered. -/
def note (id : ProjectId) : Act Unit :=
  update id fun s => { s with initialized := true, phase := .initializing }

/-- What a step does for a call. -/
inductive Advances (id : ProjectId) : Progress → Ran World → Progress → Prop where
  | spare {p : Progress} {r : Ran World} : IsSpare id r.act → Advances id p r p
  | look {w : World} : (w.project id).env.initialized = false →
      Advances id .fresh ⟨w, State, (state id).run⟩ .passed
  | ask (w : World) (default : String) (complaint : String → Option String) :
      Advances id .passed
        ⟨w, Option String, (Act.ask (Host.input folderMessage default complaint)).run⟩ .asked
  | note (w : World) : Advances id .asked ⟨w, Unit, (note id).run⟩ .entitled
  | make (w : World) (folder : String) :
      Advances id .entitled ⟨w, _, (makeEnv id folder).run⟩ .spent

/-- Whatever happens between its steps, a call advances with each of them, and its result goes with
how far it has come. Calls that split are not considered. -/
def Within (id : ProjectId) : {α : Type} → Work α → (α → Progress → Prop) → Progress → Prop
  | _, .done a, post, p => post a p
  | _, .act (β := β) f next, post, p => ∀ w : World, ∃ p',
      Advances id p ⟨w, β, f⟩ p' ∧ Within id (next (f w).1) post p'
  | _, .await _ next, post, p => Within id next post p
  | _, .both .., _, _ => False
  | _, .guarded .., _, _ => False

namespace Within

variable {id : ProjectId} {α β : Type} {p : Progress}

theorem bind {t : Work α} {f : α → Work β} {mid : α → Progress → Prop}
    {post : β → Progress → Prop} (h : Within id t mid p)
    (hf : ∀ a p', mid a p' → Within id (f a) post p') : Within id (t.bind f) post p := by
  induction t generalizing p with
  | done a => exact hf a p h
  | act g next ih =>
      intro w
      rcases h w with ⟨p', hadvances, hnext⟩
      exact ⟨p', hadvances, ih _ hnext hf⟩
  | await w next ih =>
      have hnext : Within id next mid p := h
      exact ih hnext hf
  | both l r limit next _ _ _ => exact h.elim
  | guarded body release next _ _ => exact h.elim

theorem mono {t : Work α} {post post' : α → Progress → Prop} (h : Within id t post p)
    (hpost : ∀ a p', post a p' → post' a p') : Within id t post' p := by
  rw [← Task.bind_done t]
  exact h.bind hpost

theorem act {m : Act α} {next : α → Work β} {post : β → Progress → Prop} (hm : IsSpare id m.run)
    (hnext : ∀ a, Within id (next a) post p) : Within id (.act m.run next) post p :=
  fun _ => ⟨p, .spare hm, hnext _⟩

theorem step {t t' : Work α} {post : α → Progress → Prop} {r : Ran World} (h : Within id t post p)
    (hstep : Step t r t') : ∃ p', Advances id p r p' ∧ Within id t' post p' := by
  cases hstep with
  | act f next w => exact h w
  | await w next v =>
      exact ⟨p, .spare ⟨fun _ => .of_projects rfl, rfl⟩, h⟩
  | left _ => exact h.elim
  | right _ => exact h.elim
  | joined a b limit next v => exact h.elim
  | limit l r w next v => exact h.elim
  | inside _ => exact h.elim
  | release a release next v => exact h.elim

end Within

/-- The result does not matter. -/
def Ends {α : Type} : α → Progress → Prop := fun _ _ => True

/-- A part of a call that does not advance it. -/
def Stays {α : Type} (p : Progress) : α → Progress → Prop := fun _ p' => p' = p

/-! ### Attempts -/

section

variable {id : ProjectId} {α β : Type} {p : Progress}

theorem within_bind {x : Attempt α} {f : α → Attempt β} (mid : Except Error α → Progress → Prop)
    {post : Except Error β → Progress → Prop} (hx : Within id x.run mid p)
    (hf : ∀ a p', mid (.ok a) p' → Within id (f a).run post p')
    (hfail : ∀ cause p', mid (.error cause) p' → post (.error cause) p') :
    Within id (x >>= f).run post p := by
  refine Within.bind hx fun outcome p' hmid => ?_
  cases outcome with
  | ok a => exact hf a p' hmid
  | error cause => exact hfail cause p' hmid

theorem within_catch {x : Attempt α} {handle : Error → Attempt α}
    {post : Except Error α → Progress → Prop} (hx : Within id x.run post p)
    (hhandle : ∀ cause p', post (.error cause) p' → Within id (handle cause).run post p') :
    Within id (tryCatch x handle).run post p := by
  refine Within.bind hx fun outcome p' hpost => ?_
  cases outcome with
  | ok a => exact hpost
  | error cause => exact hhandle cause p' hpost

/-- An act that is done first. -/
theorem within_act {m : Act α} {f : α → Attempt β} {post : Except Error β → Progress → Prop}
    (hm : IsSpare id m.run) (hf : ∀ a, Within id (f a).run post p) :
    Within id ((liftM m : Attempt α) >>= f).run post p :=
  Within.act hm hf

theorem within_ofAct {m : Act (Except Error α)} (hm : IsSpare id m.run) :
    Within id (Attempt.ofAct m).run (Stays p) p :=
  Within.act hm fun _ => rfl

theorem within_ofWork {work : Work α} {post : Except Error α → Progress → Prop}
    (h : Within id work (fun a => post (.ok a)) p) :
    Within id (Attempt.ofWork work).run post p :=
  h.bind fun _ _ hpost => hpost

theorem within_liftM {work : Work α} {post : Except Error α → Progress → Prop}
    (h : Within id work (fun a => post (.ok a)) p) :
    Within id (liftM work : Attempt α).run post p :=
  within_ofWork h

end

/-! ### Questions and programs -/

section

variable {id : ProjectId} {p : Progress}

theorem within_prompt (message : String) (choices : Host.Choices) :
    Within id (Work.prompt message choices) (Stays p) p :=
  Within.act (Spares.ask (recorded_prompt message choices)).isSpare fun _ => rfl

theorem within_pick (message : String) (items : List String) :
    Within id (Work.pick message items) (Stays p) p :=
  Within.act (Spares.ask (recorded_pick message items)).isSpare fun _ => rfl

theorem within_selectInterpreter : Within id Work.selectInterpreter (Stays p) p :=
  Within.act (Spares.tell (recorded_tell _ _)).isSpare fun _ => rfl

theorem within_run (i : Invocation) : Within id (Work.run i) (Stays p) p :=
  Within.act (Spares.launch i).isSpare fun _ => rfl

/-- The question for the folder. -/
theorem within_input (default : String) (complaint : FileTree → String → Option String) :
    Within id (Work.input folderMessage default complaint) (Stays .asked) .passed :=
  Within.act Spares.world.isSpare fun w v =>
    ⟨.asked, .ask v default (complaint w.files), rfl⟩

/-! ### The calls -/

theorem within_checkTool : Within id (checkTool id).run (Stays p) p := by
  refine within_act Spares.world.isSpare fun w => ?_
  refine within_bind (Stays p) (within_ofWork (within_run _)) (fun outcome p' hp => ?_) ?_
  · rw [hp]
    exact within_ofAct (spares_concludeTool _ _).isSpare
  · exact fun _ _ hp => hp

/-- Only who has made an environment tells so. -/
def Tells : Except Error Bool → Progress → Prop := fun outcome p => outcome = .ok true → p = .spent

/-- Making an environment, once the question is answered. -/
theorem within_folder (folder : String) :
    Within id (do
      update id fun s => { s with initialized := true, phase := .initializing }
      Work.selectInterpreter
      try checkTool id catch cause => do
        setPhase id .outside
        throw cause
      Attempt.ofAct (makeEnv id folder)
      pure true : Attempt Bool).run Tells .asked := by
  intro w
  refine ⟨.entitled, .note w, ?_⟩
  -- Entitled until the environment is made. Whatever fails before, none was.
  refine within_bind (Stays .entitled) (within_liftM within_selectInterpreter) ?_ ?_
  · intro _ p' hp
    rw [hp]
    refine within_bind (Stays .entitled) (within_catch within_checkTool ?_) ?_ ?_
    · intro cause p'' hp'
      rw [hp']
      exact within_act (spares_setPhase _).isSpare fun _ => rfl
    · intro _ p'' hp'
      rw [hp']
      refine within_bind (Stays .spent) (fun v => ⟨.spent, .make v folder, rfl⟩) ?_ ?_
      · exact fun _ _ hspent _ => hspent
      · exact fun cause _ _ htrue => by simp at htrue
    · exact fun cause _ _ htrue => by simp at htrue
  · exact fun cause _ _ htrue => by simp at htrue

/-- Whether the note is there decides what is done. -/
theorem within_look {β : Type} {f : State → Attempt β} {post : Except Error β → Progress → Prop}
    (hset : ∀ s, s.initialized = true → Within id (f s).run post .fresh)
    (hunset : ∀ s, s.initialized = false → Within id (f s).run post .passed) :
    Within id ((liftM (state id) : Attempt State) >>= f).run post .fresh := by
  intro w
  cases hnote : (w.project id).env.initialized with
  | true => exact ⟨.fresh, .spare spares_state.isSpare, hset _ hnote⟩
  | false => exact ⟨.passed, .look hnote, hunset _ hnote⟩

theorem within_create : Within id (create id).run Tells .fresh := by
  unfold create
  -- The note is looked for once, before the question; it is not looked for again after the answer.
  refine within_look (fun s hs => ?_) fun s hs => ?_
  · rw [if_pos hs]
    intro htrue
    simp at htrue
  · rw [hs, if_neg Bool.false_ne_true]
    refine within_act Spares.world.isSpare fun w => ?_
    refine within_bind (Stays .asked) (within_liftM (within_input _ _)) (fun answer p' hp => ?_) ?_
    · rw [hp]
      cases answer with
      | none =>
          intro htrue
          simp at htrue
      | some folder => exact within_folder folder
    · exact fun cause _ _ htrue => by simp at htrue

theorem within_adopt (name : String) : Within id (do
    Attempt.ofAct (adopt id name)
    pure true : Attempt Bool).run Ends p :=
  within_bind (Stays p) (within_ofAct (spares_adopt name).isSpare) (fun _ _ _ => trivial)
    fun _ _ _ => trivial

theorem within_switchTo (names : List String) : Within id (switchTo id names).run Ends .fresh := by
  unfold switchTo
  split
  · exact within_create.mono fun _ _ _ => trivial
  · exact within_adopt _
  · refine within_bind (Stays .fresh) (within_liftM (within_pick _ _)) (fun picked p' _ => ?_)
      fun _ _ _ => trivial
    cases picked with
    | none => trivial
    | some name =>
        dsimp only
        split
        · exact within_adopt name
        · trivial

theorem within_switch : Within id (switch id).run Ends .fresh := by
  refine within_act Spares.world.isSpare fun w => ?_
  refine within_bind (Stays .fresh) (within_liftM (within_prompt _ _)) (fun answer p' hp => ?_)
    fun _ _ _ => trivial
  rw [hp]
  cases answer with
  | yes => exact within_switchTo _
  | suppress => exact within_act spares_suppress.isSpare fun _ => trivial
  | no => trivial
  | dismissed => trivial

theorem within_checkRequirements : Within id (checkRequirements id) Ends p := by
  have hquery : Within id (queryRequirements id) (Stays p) p := by
    refine Within.act Spares.world.isSpare fun w => ?_
    dsimp only [Task.bind]
    split
    · exact rfl
    · exact (within_run _).bind fun _ _ hp => hp
  refine hquery.bind fun status p' _ => ?_
  have hnoted : Spares id (update id fun s => { s with requirements := some status }) :=
    spares_update fun _ h => h
  exact Within.act hnoted.isSpare fun _ => trivial

theorem within_ensureRequirements : Within id (ensureRequirements id) Ends p := by
  refine within_checkRequirements.bind fun status p' _ => ?_
  cases status with
  | unsatisfied =>
      refine (within_prompt _ _).bind fun answer p'' _ => ?_
      cases answer with
      | yes => exact Within.act isSpare_install fun _ => trivial
      | suppress => exact Within.act spares_suppress.isSpare fun _ => trivial
      | no => trivial
      | dismissed => trivial
  | satisfied => trivial
  | unknown => trivial

theorem within_ensure : Within id (ensure id).run Ends .fresh := by
  unfold ensure
  refine within_act Spares.world.isSpare fun w => ?_
  -- Suppressed, inside already, or to be switched to. Only the switch can make an environment.
  cases w.suppressed with
  | true => trivial
  | false =>
      rw [if_neg Bool.false_ne_true]
      cases isInside w (w.root id) with
      | true =>
          rw [if_pos rfl]
          refine within_act (spares_setPhase _).isSpare fun _ => ?_
          exact within_liftM within_ensureRequirements
      | false =>
          rw [if_neg Bool.false_ne_true]
          refine within_bind Ends within_switch (fun switched p' _ => ?_) fun _ _ _ => trivial
          cases switched with
          | true =>
              refine within_act (spares_update fun _ _ => rfl).isSpare fun _ => ?_
              exact within_liftM within_ensureRequirements
          | false => exact Within.act (spares_setPhase _).isSpare fun _ => trivial

theorem within_setUp : Within id (Project.setUp id).run Ends .fresh := by
  refine within_act Spares.world.isSpare fun w => ?_
  dsimp only
  split
  · exact within_act spares_startWatching.isSpare fun _ => within_ensure
  · trivial

end

/-! ## Calls in any order of their steps -/

/-- What may be asked of the environment of a project. -/
inductive Request : Type → Type where
  | ensure : Request Unit
  | setUp : Request Unit
  | switch : Request Bool
  | create : Request Bool

namespace Request

def work (id : ProjectId) {α : Type} : Request α → Work (Except Error α)
  | .ensure => (Environment.ensure id).run
  | .setUp => (Project.setUp id).run
  | .switch => (Environment.switch id).run
  | .create => (Environment.create id).run

def Post {α : Type} : Request α → Except Error α → Progress → Prop
  | .create => Tells
  | .ensure | .setUp | .switch => Ends

theorem within (id : ProjectId) {α : Type} (request : Request α) :
    Within id (request.work id) request.Post .fresh := by
  cases request with
  | ensure => exact within_ensure
  | setUp => exact within_setUp
  | switch => exact within_switch
  | create => exact within_create

end Request

/-- A request and what is left to do for it. -/
structure Call : Type 1 where
  answer : Type
  request : Request answer
  task : Work (Except Error answer)

/-- What was done, each step with the number of the call that took it; the others have none. -/
abbrev Log := List (Option Nat × Ran World)

/-- What can be reached from a world. Others may change everything, but they do not take the note
back. -/
inductive Reached (id : ProjectId) (w₀ : World) : Log → World → List Call → Prop where
  | start : Reached id w₀ [] w₀ []
  | call {log : Log} {w : World} {calls : List Call} {α : Type} (request : Request α) :
      Reached id w₀ log w calls →
        Reached id w₀ log w (calls ++ [⟨α, request, request.work id⟩])
  | step {log : Log} {w : World} {calls : List Call} {i : Nat} {c : Call} {r : Ran World}
      {t : Work (Except Error c.answer)} :
      Reached id w₀ log w calls → calls[i]? = some c → r.before = w → Step c.task r t →
        Reached id w₀ (log ++ [(some i, r)]) r.after (calls.set i { c with task := t })
  | other {log : Log} {w : World} {calls : List Call} {r : Ran World} :
      Reached id w₀ log w calls → r.before = w → Keeps id r.before r.after →
        Reached id w₀ (log ++ [(none, r)]) r.after calls

/-! ### What is in the log -/

/-- At a point of the log a call found no note. -/
def Looked (id : ProjectId) (log : Log) (i g : Nat) : Prop :=
  ∃ w, log[g]? = some (some i, ⟨w, State, (state id).run⟩) ∧
    (w.project id).env.initialized = false

/-- At a point of the log a call put the question for the folder. -/
def Asked (log : Log) (i q : Nat) : Prop :=
  ∃ w default complaint, log[q]? = some (some i, ⟨w, Option String,
    (Act.ask (Host.input folderMessage default complaint)).run⟩)

/-- At a point of the log a call made the note. -/
def Noted (id : ProjectId) (log : Log) (i s : Nat) : Prop :=
  ∃ w, log[s]? = some (some i, ⟨w, Unit, (note id).run⟩)

/-- At a point of the log a call made an environment. -/
def Made (id : ProjectId) (log : Log) (i m : Nat) : Prop :=
  ∃ w folder, log[m]? = some (some i, ⟨w, _, (makeEnv id folder).run⟩)

/-- A call looked for the note, put its question, and had an answer. -/
def Opened (id : ProjectId) (log : Log) (i g s : Nat) : Prop :=
  ∃ q, Looked id log i g ∧ g < q ∧ Asked log i q ∧ q < s ∧ Noted id log i s

section

variable {id : ProjectId} {log : Log} {i g q s m : Nat} {e : Option Nat × Ran World}

theorem getElem?_append_of_eq {x : Option Nat × Ran World} (h : log[g]? = some x) :
    (log ++ [e])[g]? = some x := by
  rw [List.getElem?_append_left (List.getElem?_eq_some_iff.1 h).1]
  exact h

theorem Looked.append (h : Looked id log i g) : Looked id (log ++ [e]) i g := by
  rcases h with ⟨w, hentry, hnote⟩
  exact ⟨w, getElem?_append_of_eq hentry, hnote⟩

theorem Asked.append (h : Asked log i q) : Asked (log ++ [e]) i q := by
  rcases h with ⟨w, default, complaint, hentry⟩
  exact ⟨w, default, complaint, getElem?_append_of_eq hentry⟩

theorem Noted.append (h : Noted id log i s) : Noted id (log ++ [e]) i s := by
  rcases h with ⟨w, hentry⟩
  exact ⟨w, getElem?_append_of_eq hentry⟩

theorem Opened.append (h : Opened id log i g s) : Opened id (log ++ [e]) i g s := by
  rcases h with ⟨q, hlooked, hgq, hasked, hqs, hnoted⟩
  exact ⟨q, hlooked.append, hgq, hasked.append, hqs, hnoted.append⟩

theorem Made.append (h : Made id log i m) : Made id (log ++ [e]) i m := by
  rcases h with ⟨w, folder, hentry⟩
  exact ⟨w, folder, getElem?_append_of_eq hentry⟩

/-- What is in a log was there before, or it is the last entry. -/
theorem getElem?_append_cases {x : Option Nat × Ran World} (h : (log ++ [e])[g]? = some x) :
    log[g]? = some x ∨ g = log.length ∧ e = x := by
  rcases Nat.lt_trichotomy g log.length with hlt | heq | hgt
  · rw [List.getElem?_append_left hlt] at h
    exact Or.inl h
  · rw [heq, List.getElem?_concat_length] at h
    exact Or.inr ⟨heq, Option.some.inj h⟩
  · rw [List.getElem?_eq_none (by simp; omega)] at h
    simp at h

theorem Made.of_append (h : Made id (log ++ [e]) i m) :
    Made id log i m ∨
      m = log.length ∧ ∃ w folder, e = (some i, ⟨w, _, (makeEnv id folder).run⟩) := by
  rcases h with ⟨w, folder, hentry⟩
  rcases getElem?_append_cases hentry with hold | ⟨hlast, hnew⟩
  · exact Or.inl ⟨w, folder, hold⟩
  · exact Or.inr ⟨hlast, w, folder, hnew⟩

theorem Noted.of_append (h : Noted id (log ++ [e]) i s) :
    Noted id log i s ∨ s = log.length ∧ ∃ w, e = (some i, ⟨w, Unit, (note id).run⟩) := by
  rcases h with ⟨w, hentry⟩
  rcases getElem?_append_cases hentry with hold | ⟨hlast, hnew⟩
  · exact Or.inl ⟨w, hold⟩
  · exact Or.inr ⟨hlast, w, hnew⟩

theorem Noted.lt (h : Noted id log i s) : s < log.length := by
  rcases h with ⟨w, hentry⟩
  exact (List.getElem?_eq_some_iff.1 hentry).1

end

/-! ### What a call has done -/

/-- The past of a call, as far as it has come. -/
def Past (id : ProjectId) (log : Log) (i : Nat) : Progress → Prop
  | .fresh => ∀ m, ¬ Made id log i m
  | .passed => (∃ g, Looked id log i g) ∧ ∀ m, ¬ Made id log i m
  | .asked => (∃ g q, Looked id log i g ∧ g < q ∧ Asked log i q) ∧ ∀ m, ¬ Made id log i m
  | .entitled => (∃ g s, Opened id log i g s) ∧ ∀ m, ¬ Made id log i m
  | .spent => ∃ g s m, Opened id log i g s ∧ s < m ∧ Made id log i m ∧
    ∀ m', Made id log i m' → m' = m

section

variable {id : ProjectId} {log : Log} {i : Nat} {p p' : Progress} {r : Ran World}

/-- An entry by which the call makes nothing. -/
theorem Past.append {e : Option Nat × Ran World} (h : Past id log i p)
    (hquiet : ∀ w folder, e ≠ (some i, ⟨w, _, (makeEnv id folder).run⟩)) :
    Past id (log ++ [e]) i p := by
  have hold : ∀ m, Made id (log ++ [e]) i m → Made id log i m := by
    intro m hm
    rcases hm.of_append with hold | ⟨-, w, folder, hnew⟩
    · exact hold
    · exact absurd hnew (hquiet w folder)
  -- Everything is found where it was, and nothing was made by the new entry.
  cases p with
  | fresh => exact fun m hm => h m (hold m hm)
  | passed =>
      rcases h with ⟨⟨g, hg⟩, hnone⟩
      exact ⟨⟨g, hg.append⟩, fun m hm => hnone m (hold m hm)⟩
  | asked =>
      rcases h with ⟨⟨g, q, hg, hgq, hq⟩, hnone⟩
      exact ⟨⟨g, q, hg.append, hgq, hq.append⟩, fun m hm => hnone m (hold m hm)⟩
  | entitled =>
      rcases h with ⟨⟨g, s, hopened⟩, hnone⟩
      exact ⟨⟨g, s, hopened.append⟩, fun m hm => hnone m (hold m hm)⟩
  | spent =>
      rcases h with ⟨g, s, m, hopened, hsm, hm, honce⟩
      exact ⟨g, s, m, hopened.append, hsm, hm.append, fun m' hm' => honce m' (hold m' hm')⟩

theorem ne_makeEnv (h : IsSpare id r.act) (w : World) (folder : String) :
    (some i, r) ≠ ((some i, ⟨w, _, (makeEnv id folder).run⟩) : Option Nat × Ran World) := by
  intro heq
  have hran : r = ⟨w, _, (makeEnv id folder).run⟩ := congrArg Prod.snd heq
  rw [hran] at h
  exact not_isSpare_makeEnv folder h

theorem isSpare_note : IsSpare id (note id).run :=
  (spares_update fun _ _ => rfl).isSpare

theorem isSpare_question (default : String) (complaint : String → Option String) :
    IsSpare id (Act.ask (Host.input folderMessage default complaint)).run :=
  (Spares.ask (recorded_input folderMessage default complaint)).isSpare

/-- A step takes the note of none away. -/
theorem Advances.keeps (h : Advances id p r p') : Keeps id r.before r.after := by
  cases h with
  | spare hspare => exact hspare.keeps _
  | look _ => exact spares_state.isSpare.keeps _
  | ask w default complaint => exact (isSpare_question default complaint).keeps w
  | note w => exact isSpare_note.keeps w
  | make w folder => exact keeps_makeEnv folder w

theorem Past.step (h : Past id log i p) (hadvances : Advances id p r p') :
    Past id (log ++ [(some i, r)]) i p' := by
  have hlast : ∀ x, (log ++ [(some i, x)])[log.length]? = some (some i, x) := by simp
  -- What the call did before stays where it is in the log, and the step is the last entry.
  cases hadvances with
  | spare hspare => exact h.append (ne_makeEnv hspare)
  | @look w hnote =>
      exact ⟨⟨log.length, w, hlast _, hnote⟩, h.append (ne_makeEnv spares_state.isSpare)⟩
  | ask w default complaint =>
      have hkept := h.append (ne_makeEnv (isSpare_question default complaint) (r := ⟨w, _, _⟩))
      rcases h with ⟨⟨g, hg⟩, -⟩
      have hlt : g < log.length := by
        rcases hg with ⟨v, hentry, -⟩
        exact (List.getElem?_eq_some_iff.1 hentry).1
      exact ⟨⟨g, log.length, hg.append, hlt, w, default, complaint, hlast _⟩, hkept.2⟩
  | note w =>
      have hkept := h.append (ne_makeEnv isSpare_note (r := ⟨w, _, _⟩))
      rcases h with ⟨⟨g, q, hg, hgq, hq⟩, -⟩
      have hlt : q < log.length := by
        rcases hq with ⟨v, default, complaint, hentry⟩
        exact (List.getElem?_eq_some_iff.1 hentry).1
      exact ⟨⟨g, log.length, q, hg.append, hgq, hq.append, hlt, w, hlast _⟩, hkept.2⟩
  | make w folder =>
      rcases h with ⟨⟨g, s, hopened⟩, hnone⟩
      have hlt : s < log.length := by
        rcases hopened with ⟨q, -, -, -, -, hnoted⟩
        exact hnoted.lt
      refine ⟨g, s, log.length, hopened.append, hlt, ⟨w, folder, hlast _⟩, ?_⟩
      intro m' hm'
      rcases hm'.of_append with hold | ⟨heq, -⟩
      · exact absurd hold (hnone m')
      · exact heq

end

/-! ### The note lasts -/

/-- The project is there, and once the note is made everybody finds it. -/
structure Lasting (id : ProjectId) (log : Log) (w : World) : Prop where
  there : (tried? id w).isSome = true
  now : ∀ i s, Noted id log i s → tried? id w = some true
  before : ∀ (i s k : Nat) (e : Option Nat × Ran World), Noted id log i s → log[k]? = some e →
    s < k → tried? id e.2.before = some true

section

variable {id : ProjectId} {log : Log} {w : World}

theorem tried?_note (h : (tried? id w).isSome = true) :
    tried? id ((note id).run w).2 = some true := by
  have hprojects : ((note id).run w).2.projects = w.projects.modify id fun p =>
    { p with env := { p.env with initialized := true, phase := .initializing } } := rfl
  cases hproject : w.projects[id]? with
  | none => simp [tried?, hproject] at h
  | some p =>
      rw [tried?, hprojects, List.getElem?_modify_eq, hproject]
      rfl

theorem Lasting.append {n : Option Nat} {r : Ran World} (h : Lasting id log r.before)
    (hkeeps : Keeps id r.before r.after) : Lasting id (log ++ [(n, r)]) r.after := by
  refine ⟨hkeeps.there h.there, ?_, ?_⟩
  · intro i s hnoted
    rcases hnoted.of_append with hold | ⟨-, w, hnew⟩
    · exact hkeeps.tried (h.now i s hold)
    · have hran : r = ⟨w, Unit, (note id).run⟩ := congrArg Prod.snd hnew
      have hthere := h.there
      rw [hran] at hthere ⊢
      exact tried?_note hthere
  · intro i s k e hnoted hentry hlt
    -- The note itself cannot be the last entry, for another one comes after it.
    have hk : k < (log ++ [(n, r)]).length := (List.getElem?_eq_some_iff.1 hentry).1
    have hold : Noted id log i s := by
      rcases hnoted.of_append with hold | ⟨hlast, -⟩
      · exact hold
      · simp at hk
        omega
    rcases getElem?_append_cases hentry with hbefore | ⟨-, hnew⟩
    · exact h.before i s k e hold hbefore hlt
    · rw [← hnew]
      exact h.now i s hold

end

/-- The note lasts, and every call is as far as its past tells. -/
structure Sound (id : ProjectId) (log : Log) (w : World) (calls : List Call) : Prop where
  lasting : Lasting id log w
  stands : ∀ (i : Nat) (c : Call), calls[i]? = some c →
    ∃ p, Within id c.task c.request.Post p ∧ Past id log i p
  made : ∀ (i : Nat) (r : Ran World), (some i, r) ∈ log → i < calls.length

section

variable {id : ProjectId} {w₀ w : World} {log : Log} {calls : List Call}

theorem Sound.start (h : (tried? id w₀).isSome = true) : Sound id [] w₀ [] := by
  have hnone : ∀ i s, ¬ Noted id [] i s := by
    rintro i s ⟨w, hentry⟩
    simp at hentry
  exact ⟨⟨h, fun i s hs => absurd hs (hnone i s), fun i s k e hs => absurd hs (hnone i s)⟩,
    by simp, by simp⟩

theorem Sound.call (h : Sound id log w calls) {α : Type} (request : Request α) :
    Sound id log w (calls ++ [⟨α, request, request.work id⟩]) := by
  refine ⟨h.lasting, ?_, ?_⟩
  · intro i c hc
    rcases Nat.lt_or_ge i calls.length with hlt | hge
    · rw [List.getElem?_append_left hlt] at hc
      exact h.stands i c hc
    · -- The new call has done nothing yet.
      rw [List.getElem?_append_right hge] at hc
      rcases List.getElem?_eq_some_iff.1 hc with ⟨hone, heq⟩
      have hnew : Call.mk α request (request.work id) = c := by simpa using heq
      rw [← hnew]
      refine ⟨.fresh, request.within id, ?_⟩
      rintro m ⟨v, folder, hentry⟩
      exact absurd (h.made i _ (List.mem_of_getElem? hentry)) (Nat.not_lt.2 hge)
  · intro i r hmem
    rw [List.length_append]
    exact Nat.lt_add_right _ (h.made i r hmem)

theorem Sound.step {i : Nat} {c : Call} {r : Ran World} {t : Work (Except Error c.answer)}
    (h : Sound id log r.before calls) (hc : calls[i]? = some c) (hstep : Step c.task r t) :
    Sound id (log ++ [(some i, r)]) r.after (calls.set i { c with task := t }) := by
  rcases h.stands i c hc with ⟨p, hwithin, hpast⟩
  rcases hwithin.step hstep with ⟨p', hadvances, hnext⟩
  have hlt : i < calls.length := (List.getElem?_eq_some_iff.1 hc).1
  refine ⟨h.lasting.append hadvances.keeps, ?_, ?_⟩
  · intro j c' hc'
    -- The call itself moves on. What is known of the others does not depend on what it makes.
    by_cases hij : i = j
    · subst hij
      rw [List.getElem?_set_self hlt] at hc'
      rw [← Option.some.inj hc']
      exact ⟨p', hnext, hpast.step hadvances⟩
    · rw [List.getElem?_set_ne hij] at hc'
      rcases h.stands j c' hc' with ⟨q, hwithin', hpast'⟩
      refine ⟨q, hwithin', hpast'.append fun v folder heq => hij ?_⟩
      exact Option.some.inj (congrArg Prod.fst heq)
  · intro j x hmem
    rw [List.length_set]
    rcases List.mem_append.1 hmem with hold | hnew
    · exact h.made j x hold
    · have hj : j = i := Option.some.inj (congrArg Prod.fst (List.mem_singleton.1 hnew))
      rw [hj]
      exact hlt

theorem Sound.other {r : Ran World} (h : Sound id log r.before calls)
    (hkeeps : Keeps id r.before r.after) : Sound id (log ++ [(none, r)]) r.after calls := by
  refine ⟨h.lasting.append hkeeps, ?_, ?_⟩
  · intro i c hc
    rcases h.stands i c hc with ⟨p, hwithin, hpast⟩
    exact ⟨p, hwithin, hpast.append fun v folder heq => by simp at heq⟩
  · intro i x hmem
    rcases List.mem_append.1 hmem with hold | hnew
    · exact h.made i x hold
    · simp at hnew

theorem Reached.sound (h : Reached id w₀ log w calls) (hthere : (tried? id w₀).isSome = true) :
    Sound id log w calls := by
  induction h with
  | start => exact .start hthere
  | call request _ ih => exact ih.call request
  | step _ hc hbefore hstep ih =>
      subst hbefore
      exact ih.step hc hstep
  | other _ hbefore hkeeps ih =>
      subst hbefore
      exact ih.other hkeeps

/-! ## Who makes an environment -/

theorem Sound.past_of_made (h : Sound id log w calls) {i m : Nat} (hm : Made id log i m) :
    ∃ g s, Opened id log i g s ∧ s < m ∧ ∀ m', Made id log i m' → m' = m := by
  rcases hm with ⟨v, folder, hentry⟩
  have hlt := h.made i _ (List.mem_of_getElem? hentry)
  rcases h.stands i _ (List.getElem?_eq_getElem hlt) with ⟨p, -, hpast⟩
  have hm : Made id log i m := ⟨v, folder, hentry⟩
  cases p with
  | fresh => exact absurd hm (hpast m)
  | passed => exact absurd hm (hpast.2 m)
  | asked => exact absurd hm (hpast.2 m)
  | entitled => exact absurd hm (hpast.2 m)
  | spent =>
      rcases hpast with ⟨g, s, m₀, hopened, hlt, -, honce⟩
      obtain rfl : m = m₀ := honce m hm
      exact ⟨g, s, hopened, hlt, honce⟩

/-- Two calls that found no note looked before either of them made it. -/
theorem Lasting.lt_of_opened (h : Lasting id log w) {i j g s g' s' : Nat} (hij : i ≠ j)
    (hopened : Opened id log i g s) (hopened' : Opened id log j g' s') : g < s' := by
  rcases hopened with ⟨-, ⟨v, hentry, hnote⟩, -⟩
  rcases hopened' with ⟨-, -, -, -, -, hnoted⟩
  -- A look after the note would have found it.
  rcases Nat.lt_trichotomy g s' with hlt | heq | hgt
  · exact hlt
  · rcases hnoted with ⟨v', hentry'⟩
    rw [heq, hentry'] at hentry
    exact absurd (Option.some.inj (congrArg Prod.fst (Option.some.inj hentry))).symm hij
  · have htried := h.before j s' g _ hnoted hentry hgt
    rw [initialized_of_tried? htried] at hnote
    simp at hnote

/-- A call makes one environment at most, and it has put its question for the folder and made the
note before. If two calls make environments then each has looked for the note before the other had
the answer to its question; so as long as no two of the questions overlap there is one environment
at most. Who tells that an environment was made has made one. -/
theorem Reached.creations (h : Reached id w₀ log w calls) (hthere : (tried? id w₀).isSome = true) :
    (∀ i m m', Made id log i m → Made id log i m' → m = m') ∧
    (∀ i m, Made id log i m → ∃ g s, Opened id log i g s ∧ s < m) ∧
    (∀ i j g s g' s', i ≠ j → Opened id log i g s → Opened id log j g' s' → g < s' ∧ g' < s) ∧
    ∀ i, calls[i]? = some ⟨Bool, .create, .done (.ok true)⟩ → ∃ m, Made id log i m := by
  have hsound := h.sound hthere
  refine ⟨?_, ?_, ?_, ?_⟩
  · intro i m m' hm hm'
    rcases hsound.past_of_made hm' with ⟨-, -, -, -, honce⟩
    exact honce m hm
  · intro i m hm
    rcases hsound.past_of_made hm with ⟨g, s, hopened, hlt, -⟩
    exact ⟨g, s, hopened, hlt⟩
  · intro i j g s g' s' hij hopened hopened'
    exact ⟨hsound.lasting.lt_of_opened hij hopened hopened',
      hsound.lasting.lt_of_opened hij.symm hopened' hopened⟩
  · intro i hc
    rcases hsound.stands i _ hc with ⟨p, hwithin, hpast⟩
    -- A call that ends with yes has spent its permission.
    have hspent : p = .spent := hwithin rfl
    rw [hspent] at hpast
    rcases hpast with ⟨-, -, m, -, -, hm, -⟩
    exact ⟨m, hm⟩

end

/-! ## Two questions at once -/

/-- A call may take some steps. -/
theorem Reached.steps {id : ProjectId} {w₀ w w' : World} {log : Log} {calls : List Call} {i : Nat}
    {α : Type} {request : Request α} {t t' : Work (Except Error α)} {xs : List (Ran World)}
    (h : Reached id w₀ log w calls) (hc : calls[i]? = some ⟨α, request, t⟩)
    (hsteps : Steps t w xs t' w') :
    ∃ log', Reached id w₀ log' w' (calls.set i ⟨α, request, t'⟩) := by
  induction hsteps generalizing log calls with
  | none t w =>
      rcases List.getElem?_eq_some_iff.1 hc with ⟨hlt, heq⟩
      rw [← heq, List.set_getElem_self hlt]
      exact ⟨log, h⟩
  | @more t t₁ t₂ x xs w' hstep _ ih =>
      have hnext := h.step hc rfl hstep
      have hlt : i < calls.length := (List.getElem?_eq_some_iff.1 hc).1
      rcases ih hnext (List.getElem?_set_self hlt) with ⟨log', hrest⟩
      rw [List.set_set] at hrest
      exact ⟨log', hrest⟩

theorem Reached.polled {id : ProjectId} {w₀ w : World} {log : Log} {calls : List Call} {i : Nat}
    {α : Type} {request : Request α} {t : Work (Except Error α)} (ready : Wait → World → Bool)
    (h : Reached id w₀ log w calls) (hc : calls[i]? = some ⟨α, request, t⟩) :
    ∃ log', Reached id w₀ log' (t.poll ready w).2
      (calls.set i ⟨α, request, (t.poll ready w).1⟩) := by
  rcases steps_poll ready t w with ⟨xs, hsteps⟩
  exact h.steps hc hsteps

/-- A project in an empty folder, with a person who answers two questions. -/
def pairStart : World :=
  { World.start ⟨⟨"/"⟩, 0, [(["p"], .dir)]⟩
      (.recorder { Host.Recorder.fresh with
        inputs := [some "a", some "b"]
        terminals := [⟨Terminal.nameFor ⟨"/p"⟩, ⟨"/p"⟩, [], 0, false⟩] })
      (.script ⟨[("", .outcome ⟨some 0, "20.0".toUTF8, ⟨#[]⟩⟩)], [], []⟩) default with
    projects := [Project.fresh ⟨"/p"⟩] }

/-- Up to the first waiting point. -/
def atOnce : Wait → World → Bool := fun _ _ => false

/-- Both calls put their questions. -/
def pairFirst : Work (Except Error Bool) × World := (create 0).run.poll atOnce pairStart

def pairSecond : Work (Except Error Bool) × World := (create 0).run.poll atOnce pairFirst.2

/-- Both have their answers, one after the other. -/
def pairThird : Work (Except Error Bool) × World := pairFirst.1.poll World.isReady pairSecond.2

def pairFourth : Work (Except Error Bool) × World := pairSecond.1.poll World.isReady pairThird.2

theorem reached_pair : ∃ log, Reached 0 pairStart log pairFourth.2
    [⟨Bool, .create, pairThird.1⟩, ⟨Bool, .create, pairFourth.1⟩] := by
  have hstart : Reached 0 pairStart [] pairStart
      [⟨Bool, .create, (create 0).run⟩, ⟨Bool, .create, (create 0).run⟩] :=
    .call .create (.call .create .start)
  rcases hstart.polled (i := 0) atOnce rfl with ⟨log₁, hfirst⟩
  rcases hfirst.polled (i := 1) atOnce rfl with ⟨log₂, hsecond⟩
  rcases hsecond.polled (i := 0) World.isReady rfl with ⟨log₃, hthird⟩
  rcases hthird.polled (i := 1) World.isReady rfl with ⟨log₄, hfourth⟩
  exact ⟨log₄, hfourth⟩

theorem eq_done_of_any {t : Work (Except Error Bool)}
    (h : (t.result?.any fun outcome => outcome.toOption == some true) = true) :
    t = .done (.ok true) := by
  cases hresult : t.result? with
  | none => simp [hresult] at h
  | some outcome =>
      rw [eq_done_of_result? hresult]
      cases outcome with
      | error cause => simp [hresult, Except.toOption] at h
      | ok b =>
          have hb : b = true := by simpa [hresult, Except.toOption] using h
          rw [hb]

/-- Each call has looked for the note before the other made it, and each has made an environment. -/
theorem creations_pair : (tried? 0 pairStart).isSome = true ∧
    ∃ log calls, Reached 0 pairStart log pairFourth.2 calls ∧
      ∃ m m', Made 0 log 0 m ∧ Made 0 log 1 m' ∧
        ∃ g s g' s', Opened 0 log 0 g s ∧ Opened 0 log 1 g' s' ∧ g < s' ∧ g' < s := by
  have hdone : pairThird.1 = .done (.ok true) ∧ pairFourth.1 = .done (.ok true) :=
    ⟨eq_done_of_any (by decide +kernel), eq_done_of_any (by decide +kernel)⟩
  rcases reached_pair with ⟨log, hreached⟩
  rw [hdone.1, hdone.2] at hreached
  rcases hreached.creations rfl with ⟨-, hopened, hoverlap, htells⟩
  rcases htells 0 rfl with ⟨m, hm⟩
  rcases htells 1 rfl with ⟨m', hm'⟩
  rcases hopened 0 m hm with ⟨g, s, hgs, -⟩
  rcases hopened 1 m' hm' with ⟨g', s', hgs', -⟩
  have hboth := hoverlap 0 1 g s g' s' (by decide) hgs hgs'
  exact ⟨rfl, log, _, hreached, m, m', hm, hm', g, s, g', s', hgs, hgs', hboth⟩

/-- The terminal of the project was told to make two environments. -/
theorem reached_two_creations : ∃ log w calls, Reached 0 pairStart log w calls ∧
    w.host.recorded.map (·.lines) =
      [[TerminalLine.createVirtualenv ⟨"python"⟩ ⟨"/p/a"⟩, TerminalLine.activate .unix ⟨"/p/a"⟩,
        TerminalLine.createVirtualenv ⟨"/p/a/bin/python"⟩ ⟨"/p/b"⟩,
        TerminalLine.activate .unix ⟨"/p/b"⟩]] := by
  rcases reached_pair with ⟨log, hreached⟩
  refine ⟨log, pairFourth.2, _, hreached, ?_⟩
  decide +kernel

end Creation
end Environment
end Testbench
