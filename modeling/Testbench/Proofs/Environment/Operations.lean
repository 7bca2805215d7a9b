import Testbench.Proofs.Environment.Creation
import Testbench.Proofs.Host.Terminals

/-!
# Operations — what each act on an environment does

What an act does to the files, to the state of an environment and to the terminal of its project
does not depend on the host, which is told of it only. So each act has one equation, which holds
whatever the host is, and says which lines the terminal gets and what each of them is for.

- `View`, `view?`     : what the work on an environment knows of its project;
- `Line`              : the lines that are sent, by what they are for;
- `Host.Fed`          : a terminal has got some lines, and the others none;
- `Does`              : an act, whatever the host is;
- `does_adopt`, `does_makeEnv`, `does_settingsChanged`, … : the acts;
- `Minor`, `Primitive` : the acts that operations are made of;
- `IsMinor`, `IsBuilt` : what is made of them;
- `Operation`, `Operation.isBuilt` : what can be asked of an environment.
-/

namespace Testbench

open Host (Deed)
open Terminal (nameFor)

/-! ## Terminals -/

namespace Host

/-- The terminal of one name has got some lines, if there is one; all others are as before. -/
def Fed (name : String) (lines : List String) (host host' : Host) : Prop :=
  ∀ n, host'.terminal? n =
    (host.terminal? n).map fun t => if n = name then t.replay (lines.map .sent) else t

namespace Fed

variable {name : String} {host host' host'' : Host} {lines more : List String}

theorem of_terminals (h : ∀ n, host'.terminal? n = host.terminal? n) : Fed name [] host host' := by
  intro n
  rw [h n]
  cases host.terminal? n with
  | none => rfl
  | some t => by_cases hn : n = name <;> simp [hn, AnyTerminal.replay]

theorem refl (host : Host) : Fed name [] host host := of_terminals fun _ => rfl

theorem trans (h : Fed name lines host host') (h' : Fed name more host' host'') :
    Fed name (lines ++ more) host host'' := by
  intro n
  rw [h' n, h n, Option.map_map]
  congr 1
  funext t
  by_cases hn : n = name
  · simp [hn, AnyTerminal.replay, List.foldl_append]
  · simp [hn]

theorem send (host : Host) (name line : String) : Fed name [line] host (host.send name line) :=
  host.terminal?_send name line

end Fed

/-! ### Messages and questions -/

theorem terminal?_tell (event : Event) {change : Console → Console}
    (h : ∀ c, (change c).terminals = c.terminals) (host : Host) (name : String) :
    (host.tell event change).terminal? name = host.terminal? name := by
  cases host with
  | recorder r => rfl
  | console c =>
      change ((change c).terminal? name).map AnyTerminal.console = _
      rw [Console.terminal?, h c]
      rfl

theorem terminal?_prompt (message : String) (choices : Choices) (host : Host) (name : String) :
    (host.prompt message choices).2.terminal? name = host.terminal? name := by
  cases host with
  | recorder r =>
      rcases r with ⟨prompts, picks, inputs, events, editor, unsaved, terminals⟩
      cases prompts <;> rfl
  | console c =>
      rcases c with ⟨assumed, mode, editor, terminals, printed⟩
      cases assumed <;> rfl

theorem terminal?_pick (message : String) (items : List String) (host : Host) (name : String) :
    (host.pick message items).2.terminal? name = host.terminal? name := by
  cases host with
  | recorder r =>
      rcases r with ⟨prompts, picks, inputs, events, editor, unsaved, terminals⟩
      cases picks <;> rfl
  | console c =>
      have hkept : (c.pick message items).2.terminals = c.terminals := by
        unfold Console.pick
        split <;> rfl
      change ((c.pick message items).2.terminal? name).map AnyTerminal.console = _
      rw [Console.terminal?, hkept]
      rfl

theorem terminal?_input (message default : String) (complaint : String → Option String)
    (host : Host) (name : String) :
    (host.input message default complaint).2.terminal? name = host.terminal? name := by
  cases host with
  | recorder r =>
      have htaken : (r.record (.input message)).takeInput.2.terminals = r.terminals := by
        rw [Recorder.takeInput]
        cases (r.record (.input message)).inputs <;> rfl
      rcases hinput : (r.record (.input message)).takeInput with ⟨answer, r₁⟩
      have hkept : r₁.terminals = r.terminals := by rwa [hinput] at htaken
      simp only [input, hinput]
      -- A complaint is recorded too, and touches no terminal either.
      cases answer.bind complaint with
      | none => simp [terminal?, Recorder.terminal?, hkept]
      | some text => simp [terminal?, Recorder.terminal?, Recorder.record, hkept]
  | console c =>
      have hkept : (c.input message default complaint).2.terminals = c.terminals := by
        unfold Console.input
        split
        · split <;> rfl
        · rfl
      change ((c.input message default complaint).2.terminal? name).map AnyTerminal.console = _
      rw [Console.terminal?, hkept]
      rfl

end Host

/-- The same world in front of another host. -/
def World.withHost (w : World) (host : Host) : World := { w with host := host }

namespace Environment

/-! ## What is known of a project -/

structure View where
  root : Path
  platform : Platform
  state : State

/-- The view of a project, if there is one. -/
def view? (id : ProjectId) (w : World) : Option View :=
  (w.projects[id]?).map fun p => ⟨p.root, w.setup.platform, p.env⟩

section

variable {id : ProjectId} {w : World} {v : View}

theorem view?_withHost (host : Host) : view? id (w.withHost host) = view? id w := rfl

theorem view?_withFiles (files : FileTree) : view? id { w with files := files } = view? id w := rfl

theorem view?_updateEnv (f : State → State) :
    view? id (w.updateEnv id f) = (view? id w).map fun v => { v with state := f v.state } := by
  rw [view?, World.updateEnv, World.updateProject, List.getElem?_modify_eq, view?,
    Option.map_eq_map, Option.map_map, Option.map_map]
  rfl

theorem view?_updateEnv_some (h : view? id w = some v) (f : State → State) :
    view? id (w.updateEnv id f) = some { v with state := f v.state } := by
  rw [view?_updateEnv, h]
  rfl

theorem view?_changed (h : view? id w = some v) (files : FileTree) (f : State → State) :
    view? id (({ w with files := files } : World).updateEnv id f) =
      some { v with state := f v.state } :=
  view?_updateEnv_some ((view?_withFiles files).trans h) f

theorem root_eq (h : view? id w = some v) : w.root id = v.root := by
  rcases Option.map_eq_some_iff.1 h with ⟨p, hp, rfl⟩
  rw [World.root, World.project, hp]
  rfl

theorem state_eq (h : view? id w = some v) : (w.project id).env = v.state := by
  rcases Option.map_eq_some_iff.1 h with ⟨p, hp, rfl⟩
  rw [World.project, hp]
  rfl

theorem platform_eq (h : view? id w = some v) : w.setup.platform = v.platform := by
  rcases Option.map_eq_some_iff.1 h with ⟨p, hp, rfl⟩
  rfl

end

/-! ### What does not depend on the host -/

section

variable (w : World) (host : Host) (id : ProjectId) (root : Path)

theorem files_withHost : (w.withHost host).files = w.files := rfl

theorem setup_withHost : (w.withHost host).setup = w.setup := rfl

theorem root_withHost : (w.withHost host).root id = w.root id := rfl

theorem interpreter_withHost : interpreter (w.withHost host) root = interpreter w root := by
  unfold interpreter
  rw [files_withHost, setup_withHost]

theorem packageIndex?_withHost : packageIndex? (w.withHost host) root = packageIndex? w root := by
  unfold packageIndex?
  rw [files_withHost, setup_withHost]

end

/-! ## Lines -/

/-- A line that is sent to the terminal of a project for its environment. -/
inductive Line where
  | enter (env : Path)
  | leave
  | prepend (dir : Path)
  | make (python env : Path)
  | install (python requirements : Path) (index : Option String)

def Line.text (p : Platform) : Line → String
  | .enter env => TerminalLine.activate p env
  | .leave => TerminalLine.deactivate
  | .prepend dir => TerminalLine.prependPath p dir
  | .make python env => TerminalLine.createVirtualenv python env
  | .install python requirements index => TerminalLine.pipInstall python requirements index

/-- The terminal of a project has got some lines. -/
def Fed (v : View) (lines : List Line) : Host → Host → Prop :=
  Host.Fed (nameFor v.root) (lines.map (Line.text v.platform))

/-! ## Acts -/

/-- In a world with any host, an act gives an answer, changes the world apart from its host to a
given one, and sends some lines to the terminal of a project. -/
def Does (v : View) {α : Type} (m : Act α) (w : World) (a : α) (w' : World) (lines : List Line) :
    Prop :=
  ∀ host, ∃ host', m.run (w.withHost host) = (a, w'.withHost host') ∧ Fed v lines host host'

section

variable {id : ProjectId} {v : View} {w w₁ w₂ : World} {α β : Type} {a : α} {b : β}
  {lines more : List Line}

namespace Does

theorem pure (a : α) (w : World) : Does v (Pure.pure a : Act α) w a w [] :=
  fun host => ⟨host, rfl, .refl host⟩

theorem bind {m : Act α} {f : α → Act β} (h : Does v m w a w₁ lines)
    (h' : Does v (f a) w₁ b w₂ more) : Does v (m >>= f) w b w₂ (lines ++ more) := by
  intro host
  rcases h host with ⟨host₁, hrun, hfed⟩
  rcases h' host₁ with ⟨host₂, hrun', hfed'⟩
  refine ⟨host₂, ?_, ?_⟩
  · rw [Creation.run_bind, hrun]
    exact hrun'
  · rw [Fed, List.map_append]
    exact hfed.trans hfed'

/-- What comes after an act that sends nothing. -/
theorem thenDo {m : Act α} {f : α → Act β} (h : Does v m w a w₁ [])
    (h' : Does v (f a) w₁ b w₂ more) : Does v (m >>= f) w b w₂ more :=
  h.bind h'

/-- What is done after a look at the world does not depend on the host. -/
theorem look {f : World → Act β} (hf : ∀ host, f (w.withHost host) = f w)
    (h : Does v (f w) w b w₁ lines) : Does v (Act.world >>= f) w b w₁ lines := by
  intro host
  rcases h host with ⟨host', hrun, hfed⟩
  refine ⟨host', ?_, hfed⟩
  rw [← hrun, ← hf host]
  rfl

/-- What an environment is like does not matter for its terminal. -/
theorem of_state {m : Act α} {s : State} (h : Does { v with state := s } m w a w₁ lines) :
    Does v m w a w₁ lines := h

theorem onFiles (change : FileTree → α × FileTree) (w : World) :
    Does v (Act.onFiles change) w (change w.files).1 { w with files := (change w.files).2 } [] :=
  fun host => ⟨host, rfl, .refl host⟩

theorem change {f : World → World} (hf : ∀ host, f (w.withHost host) = (f w).withHost host) :
    Does v (modify f : Act Unit) w () (f w) [] :=
  fun host => ⟨host, congrArg (Prod.mk ()) (hf host), .refl host⟩

theorem tell {message : Host → Host}
    (h : ∀ host n, (message host).terminal? n = host.terminal? n) (w : World) :
    Does v (Act.tell message) w () w [] :=
  fun host => ⟨message host, rfl, .of_terminals (h host)⟩

/-- In front of the host that the world has. -/
theorem run_eq {m : Act α} (h : Does v m w a w₁ lines) :
    ∃ host', m.run w = (a, w₁.withHost host') := by
  rcases h w.host with ⟨host', hrun, -⟩
  exact ⟨host', hrun⟩

theorem fed {m : Act α} (h : Does v m w a w₁ lines) (host : Host) :
    Fed v lines host (m.run (w.withHost host)).2.host := by
  rcases h host with ⟨host', hrun, hfed⟩
  rw [hrun]
  exact hfed

end Does

/-! ### State and terminal -/

theorem does_update (f : State → State) (w : World) :
    Does v (update id f) w () (w.updateEnv id f) [] :=
  .change fun _ => rfl

theorem does_state (h : view? id w = some v) : Does v (state id) w v.state w [] := by
  rw [← state_eq h]
  exact fun host => ⟨host, rfl, .refl host⟩

theorem does_rootOf (h : view? id w = some v) : Does v (rootOf id) w v.root w [] := by
  rw [← root_eq h]
  exact fun host => ⟨host, rfl, .refl host⟩

theorem does_send (h : view? id w = some v) (l : Line) :
    Does v (send id (l.text v.platform)) w () w [l] := by
  refine (does_rootOf h).thenDo fun host => ?_
  exact ⟨host.send (nameFor v.root) (l.text v.platform), rfl, Host.Fed.send _ _ _⟩

/-- The line that enters the environment in use. -/
def entering : Option Path → List Line
  | some env => [.enter env]
  | none => []

theorem does_activate (h : view? id w = some v) :
    Does v (activate id) w () w (entering v.state.env) := by
  refine (does_state h).thenDo ?_
  cases v.state.env with
  | none => exact .pure () w
  | some env =>
      refine .look (fun _ => rfl) ?_
      rw [platform_eq h]
      exact does_send h (.enter env)

/-- The state in which an environment is in use. -/
def inside (env : Path) (s : State) : State := { s with env := some env, phase := .inside }

/-- The state in which none is. -/
def outside (s : State) : State := { s with env := none, phase := .outside }

theorem does_enter (h : view? id w = some v) (env : Path) :
    Does v (enter id env) w () (w.updateEnv id (inside env)) [.enter env] :=
  -- The environment that is entered is the one that was just put down.
  (does_update _ w).thenDo (does_activate (view?_updateEnv_some h (inside env)))

/-- The line that leaves the environment in use, if there is one left to leave. -/
def left (w : World) (v : View) : List Line :=
  match v.state.env with
  | some env => if w.files.isFile (v.platform.activationMarker env) then [.leave] else []
  | none => []

theorem does_deactivate (h : view? id w = some v) :
    Does v (deactivate id) w () (w.updateEnv id outside) (left w v) := by
  have hupdate : Does v (update id outside) w () (w.updateEnv id outside) [] := does_update _ w
  refine .look (fun _ => rfl) ?_
  refine (does_state h).thenDo ?_
  rw [left]
  cases v.state.env with
  | none => exact hupdate
  | some env =>
      dsimp only
      rw [platform_eq h]
      split
      · exact (does_send h .leave).bind hupdate
      · exact hupdate

/-- The directory of the interpreter. -/
def interpreterDir (w : World) (root : Path) : Path := ((interpreter w root).parent?).getD ⟨""⟩

theorem does_prependPath (h : view? id w = some v) :
    Does v (prependPath id) w () w [.prepend (interpreterDir w v.root)] := by
  refine .look (fun host => ?_) ?_
  · simp only [interpreter_withHost, root_withHost, setup_withHost]
  · dsimp only
    rw [platform_eq h, root_eq h]
    exact does_send h (.prepend (interpreterDir w v.root))

/-- The line that installs the requirements, if there are any. -/
def installed (w : World) (root : Path) : List Line :=
  if w.files.isFile (requirementsFile root) then
    [.install (interpreter w root) (requirementsFile root) (packageIndex? w root)]
  else []

theorem does_install (h : view? id w = some v) :
    Does v (install id) w () w (installed w v.root) := by
  refine .look (fun host => ?_) ?_
  · simp only [interpreter_withHost, packageIndex?_withHost, root_withHost, files_withHost]
  · dsimp only
    rw [root_eq h, installed]
    split
    · exact does_send h (.install _ _ _)
    · exact .pure () w

/-! ### Getting an environment -/

/-- The settings with the interpreter of an environment named in them. -/
def naming (w : World) (v : View) (env : Path) : Except Error Unit × FileTree :=
  Settings.set w.files v.root Settings.pythonPathKey (.text (v.platform.envPython env).text)

theorem does_nameInterpreter (h : view? id w = some v) (env : Path) :
    Does v (nameInterpreter id env) w (naming w v env).1
      { w with files := (naming w v env).2 } [] := by
  refine .look (fun _ => rfl) ?_
  dsimp only
  rw [root_eq h, platform_eq h]
  exact .onFiles _ w

theorem does_adopt_ok (h : view? id w = some v) {name : String}
    (hnamed : (naming w v (v.root.joinText name)).1 = .ok ()) :
    Does v (adopt id name) w (.ok ())
      (({ w with files := (naming w v (v.root.joinText name)).2 } : World).updateEnv id
        (inside (v.root.joinText name)))
      [.enter (v.root.joinText name)] := by
  refine (does_rootOf h).thenDo ?_
  refine (does_nameInterpreter h _).thenDo ?_
  rw [hnamed]
  exact (does_enter (view?_withFiles _ ▸ h) _).bind (.pure _ _)

theorem does_adopt_error (h : view? id w = some v) {name : String} {cause : Error}
    (hnamed : (naming w v (v.root.joinText name)).1 = .error cause) :
    Does v (adopt id name) w (.error cause)
      { w with files := (naming w v (v.root.joinText name)).2 } [] := by
  refine (does_rootOf h).thenDo ?_
  refine (does_nameInterpreter h _).thenDo ?_
  rw [hnamed]
  exact .pure _ _

theorem does_showError (message : String) (w : World) :
    Does v (Act.tell (Host.showError message)) w () w [] := by
  have hkept : ∀ c : Host.Console, (c.showError message).terminals = c.terminals := fun _ => rfl
  exact .tell (fun host n => Host.terminal?_tell _ hkept host n) w

theorem does_updateStatus (text : String) (w : World) :
    Does v (Act.tell (Host.updateStatus text)) w () w [] := by
  have hkept : ∀ c : Host.Console, (id c).terminals = c.terminals := fun _ => rfl
  exact .tell (fun host n => Host.terminal?_tell _ hkept host n) w

/-- The environment that is made in a folder. -/
def envIn (v : View) (folder : String) : Path := v.root.joinText (Text.trim folder)

/-- First the line that makes it is sent. -/
theorem does_makeEnv (h : view? id w = some v) {folder : String} {a : Except Error Unit}
    (hrest : Does v (Creation.afterCreation id (envIn v folder)) w a w₁ lines) :
    Does v (makeEnv id folder) w a w₁ (.make (interpreter w v.root) (envIn v folder) :: lines) := by
  rw [Creation.makeEnv_eq]
  refine .look (fun host => ?_) ?_
  · simp only [interpreter_withHost, root_withHost]
  · dsimp only
    rw [root_eq h]
    exact (does_send h (.make (interpreter w v.root) (envIn v folder))).bind hrest

theorem does_makeEnv_ok (h : view? id w = some v) {folder : String}
    (hnamed : (naming w v (envIn v folder)).1 = .ok ()) :
    Does v (makeEnv id folder) w (.ok ())
      (({ w with files := (naming w v (envIn v folder)).2 } : World).updateEnv id
        (inside (envIn v folder)))
      [.make (interpreter w v.root) (envIn v folder), .enter (envIn v folder)] := by
  refine does_makeEnv h ?_
  refine (does_nameInterpreter h (envIn v folder)).thenDo ?_
  rw [hnamed]
  exact (does_enter (view?_withFiles _ ▸ h) _).bind (.pure _ _)

def creationMessage (cause : Error) : String := "Create env dir failed: " ++ cause.message

theorem does_makeEnv_error (h : view? id w = some v) {folder : String} {cause : Error}
    (hnamed : (naming w v (envIn v folder)).1 = .error cause) :
    Does v (makeEnv id folder) w (.error (.environment (creationMessage cause)))
      (({ w with files := (naming w v (envIn v folder)).2 } : World).updateEnv id
        fun s => { s with phase := .outside })
      [.make (interpreter w v.root) (envIn v folder)] := by
  refine does_makeEnv h ?_
  refine (does_nameInterpreter h (envIn v folder)).thenDo ?_
  rw [hnamed]
  refine (does_showError _ _).thenDo ?_
  exact (does_update _ _).thenDo (.pure _ _)

/-- What the version run comes to is told, and noted beside the environment. -/
theorem does_concludeTool (h : view? id w = some v) (command : String)
    (outcome : Except Error Outcome) :
    ∃ (a : Except Error Unit) (checked : Bool), Does v (concludeTool id command outcome) w a
      (w.updateEnv id fun s => { s with toolChecked := checked || s.toolChecked }) [] := by
  -- An old version is told without a note.
  have hsame : w.updateEnv id (fun s => { s with toolChecked := false || s.toolChecked }) = w := by
    exact congrArg (fun ps => { w with projects := ps }) (List.modify_id id w.projects)
  unfold concludeTool
  extract_lets missing
  have hmissing : ∀ failure, ∃ a : Except Error Unit, Does v (missing failure) w a
      (w.updateEnv id fun s => { s with toolChecked := true || s.toolChecked }) [] := by
    intro failure
    refine ⟨.error (.tool command (Text.trim failure)), ?_⟩
    refine (does_updateStatus _ w).thenDo ?_
    refine (does_state h).thenDo ?_
    dsimp only
    refine (does_update _ w).thenDo ?_
    split
    · exact (does_showError _ _).thenDo (.pure _ _)
    · exact .pure _ _
  cases outcome with
  | error cause =>
      rcases hmissing cause.message with ⟨a, ha⟩
      exact ⟨a, true, ha⟩
  | ok o =>
      dsimp only
      split
      · rcases hmissing o.stderrText with ⟨a, ha⟩
        exact ⟨a, true, ha⟩
      · split
        · refine ⟨.ok (), true, ?_⟩
          exact (does_update _ w).thenDo ((does_updateStatus _ _).thenDo (.pure _ _))
        · refine ⟨.error (.tool command ("unsupported version: " ++ Text.trim o.stdoutText)),
            false, ?_⟩
          rw [hsame]
          exact (does_showError _ w).thenDo (.pure _ w)

/-! ### Following edits -/

/-- The directory two levels above a path. -/
def twoUp (p : Path) : Option Path := p.parent?.bind Path.parent?

/-- Whether an environment is the one that the settings name, or there is neither. -/
def agrees : Option Path → Option Path → Bool
  | some env, some dir => env.same dir
  | none, none => true
  | _, _ => false

/-- The environment of the interpreter, if it belongs to one. -/
def inUse? (w : World) (root : Path) : Option Path :=
  ((interpreter w root).parent?.filter (isEnvBin w.files)).bind Path.parent?

theorem inUse?_withHost (w : World) (host : Host) (root : Path) :
    inUse? (w.withHost host) root = inUse? w root := by
  rw [inUse?, interpreter_withHost, files_withHost, inUse?]

/-- What follows from the state of an environment, the interpreter that the settings name, and the
environment that the interpreter belongs to. -/
def follow (id : ProjectId) (s : State) (python : Path) (env : Option Path) : Act Unit :=
  if s.phase == .inside && agrees s.env (twoUp python) then pure ()
  else match env with
    | some env => enter id env
    | none => do
      deactivate id
      prependPath id

theorem settingsChanged_eq : settingsChanged id = (do
    let w ← Act.world
    let s ← state id
    follow id s (interpreter w (w.root id)) (inUse? w (w.root id))) := by
  unfold settingsChanged
  refine bind_congr fun w => ?_
  dsimp only
  refine bind_congr fun s => ?_
  unfold follow inUse? twoUp
  generalize interpreter w (w.root id) = python
  rfl

theorem does_settingsChanged (h : view? id w = some v)
    (hfollow : Does v (follow id v.state (interpreter w v.root) (inUse? w v.root)) w () w₁ lines) :
    Does v (settingsChanged id) w () w₁ lines := by
  rw [settingsChanged_eq]
  refine .look (fun host => ?_) ((does_state h).thenDo ?_)
  · simp only [interpreter_withHost, inUse?_withHost, root_withHost]
  · rw [root_eq h]
    exact hfollow

/-- The environment is still the one that the settings name. -/
theorem does_settingsChanged_same (h : view? id w = some v)
    (hsame :
      (v.state.phase == .inside && agrees v.state.env (twoUp (interpreter w v.root))) = true) :
    Does v (settingsChanged id) w () w [] := by
  refine does_settingsChanged h ?_
  unfold follow
  rw [if_pos hsame]
  exact .pure () w

theorem does_settingsChanged_enter (h : view? id w = some v)
    (hother :
      (v.state.phase == .inside && agrees v.state.env (twoUp (interpreter w v.root))) = false)
    {env : Path} (henv : inUse? w v.root = some env) :
    Does v (settingsChanged id) w () (w.updateEnv id (inside env)) [.enter env] := by
  refine does_settingsChanged h ?_
  unfold follow
  rw [if_neg (Bool.eq_false_iff.1 hother), henv]
  exact does_enter h env

theorem does_settingsChanged_leave (h : view? id w = some v)
    (hother :
      (v.state.phase == .inside && agrees v.state.env (twoUp (interpreter w v.root))) = false)
    (hnone : inUse? w v.root = none) :
    Does v (settingsChanged id) w () (w.updateEnv id outside)
      (left w v ++ [.prepend (interpreterDir w v.root)]) := by
  have hafter : view? id (w.updateEnv id outside) = some { v with state := outside v.state } :=
    view?_updateEnv_some h outside
  refine does_settingsChanged h ?_
  unfold follow
  rw [if_neg (Bool.eq_false_iff.1 hother), hnone]
  exact (does_deactivate h).bind (does_prependPath hafter).of_state

end

/-! ## What operations are made of -/

/-- An act sends nothing, and leaves what is known of a project. -/
structure Mute (id : ProjectId) {α : Type} (m : Act α) : Prop where
  view : ∀ w, view? id (m.run w).2 = view? id w
  silent : ∀ w n, (m.run w).2.host.terminal? n = w.host.terminal? n

section

variable {id : ProjectId} {α : Type}

theorem mute_pure (a : α) : Mute id (pure a : Act α) := ⟨fun _ => rfl, fun _ _ => rfl⟩

theorem mute_world : Mute id Act.world := ⟨fun _ => rfl, fun _ _ => rfl⟩

theorem mute_state : Mute id (state id) := ⟨fun _ => rfl, fun _ _ => rfl⟩

theorem mute_suppress : Mute id suppress := ⟨fun _ => rfl, fun _ _ => rfl⟩

theorem mute_prompt (message : String) (choices : Host.Choices) :
    Mute id (Act.ask (Host.prompt message choices)) :=
  ⟨fun _ => rfl, fun w n => w.host.terminal?_prompt message choices n⟩

theorem mute_pick (message : String) (items : List String) :
    Mute id (Act.ask (Host.pick message items)) :=
  ⟨fun _ => rfl, fun w n => w.host.terminal?_pick message items n⟩

theorem mute_input (message default : String) (complaint : String → Option String) :
    Mute id (Act.ask (Host.input message default complaint)) :=
  ⟨fun _ => rfl, fun w n => w.host.terminal?_input message default complaint n⟩

theorem mute_selectInterpreter : Mute id (Act.tell Host.selectInterpreter) := by
  have hkept : ∀ c : Host.Console, c.selectInterpreter.terminals = c.terminals := fun _ => rfl
  exact ⟨fun _ => rfl, fun w n => Host.terminal?_tell .interpreterSelection hkept w.host n⟩

theorem mute_launch (i : Invocation) : Mute id (Work.launch i) := by
  have hframe : ∀ w, ((Work.launch i).run w).2.projects = w.projects ∧
      ((Work.launch i).run w).2.setup = w.setup ∧ ((Work.launch i).run w).2.host = w.host := by
    intro w
    rcases w with ⟨files, now, host, runner, setup, cache, suppressed, projects, registry, listing,
      lenses, jobs, nextTicket, flusher⟩
    cases runner with
    | script s => exact ⟨rfl, rfl, rfl⟩
    | files => exact ⟨rfl, rfl, rfl⟩
  refine ⟨fun w => ?_, fun w n => ?_⟩
  · rw [view?, (hframe w).1, (hframe w).2.1, view?]
  · rw [(hframe w).2.2]

end

/-- Acts that leave the environment in use and the phase. -/
inductive Minor (id : ProjectId) : {β : Type} → (World → β × World) → Prop where
  | mute {β : Type} {m : Act β} : Mute id m → Minor id m.run
  /-- Something is noted beside the environment in use. -/
  | note {f : State → State} : (∀ s, (f s).env = s.env) → (∀ s, (f s).phase = s.phase) →
      Minor id (update id f).run
  | activate : Minor id (activate id).run
  | prependPath : Minor id (prependPath id).run
  | install : Minor id (install id).run
  | concludeTool (command : String) (outcome : Except Error Outcome) :
      Minor id (concludeTool id command outcome).run

/-- The acts that operations on an environment are made of. -/
inductive Primitive (id : ProjectId) : {β : Type} → (World → β × World) → Prop where
  | minor {β : Type} {f : World → β × World} : Minor id f → Primitive id f
  /-- Another phase begins, in the same environment. -/
  | note {f : State → State} : (∀ s, (f s).env = s.env) → Primitive id (update id f).run
  | deactivate : Primitive id (deactivate id).run
  | adopt (name : String) : Primitive id (adopt id name).run
  | makeEnv (folder : String) : Primitive id (makeEnv id folder).run
  | settingsChanged : Primitive id (settingsChanged id).run

/-- A task is made of minor acts, one after another. -/
def IsMinor (id : ProjectId) {α : Type} (t : Work α) : Prop := t.All fun x => Minor id x.act

/-- A task is made of such acts, one after another. -/
def IsBuilt (id : ProjectId) {α : Type} (t : Work α) : Prop := t.All fun x => Primitive id x.act

/-! ### One part after another -/

section

variable {P : Task.Ran World → Prop} {α β : Type}

theorem all_act {m : Act α} {next : α → Work β} (hm : ∀ w, P ⟨w, α, m.run⟩)
    (hnext : ∀ a, (next a).All P) : (Task.act m.run next : Work β).All P :=
  fun w => ⟨hm w, hnext _⟩

theorem all_lift {m : Act α} (hm : ∀ w, P ⟨w, α, m.run⟩) : (Task.lift m : Work α).All P :=
  all_act hm fun _ => trivial

theorem all_bind {x : Attempt α} {f : α → Attempt β} (hx : x.run.All P)
    (hf : ∀ a, (f a).run.All P) : (x >>= f).run.All P := by
  refine Task.All.bind hx fun outcome => ?_
  cases outcome with
  | ok a => exact hf a
  | error cause => trivial

theorem all_catch {x : Attempt α} {handle : Error → Attempt α} (hx : x.run.All P)
    (hhandle : ∀ cause, (handle cause).run.All P) : (tryCatch x handle).run.All P := by
  refine Task.All.bind hx fun outcome => ?_
  cases outcome with
  | ok a => trivial
  | error cause => exact hhandle cause

/-- An act that is done first. -/
theorem all_first {m : Act α} {f : α → Attempt β} (hm : ∀ w, P ⟨w, α, m.run⟩)
    (hf : ∀ a, (f a).run.All P) : ((liftM m : Attempt α) >>= f).run.All P :=
  all_act hm hf

theorem all_ofWork {work : Work α} (h : work.All P) : (Attempt.ofWork work).run.All P :=
  Task.All.bind h fun _ => trivial

theorem all_liftM {work : Work α} (h : work.All P) : (liftM work : Attempt α).run.All P :=
  all_ofWork h

end

/-! ### Questions and runs -/

section

variable {id : ProjectId} {α : Type}

theorem IsMinor.isBuilt {t : Work α} (h : IsMinor id t) : IsBuilt id t :=
  Task.All.mono h fun _ => .minor

theorem minor_pause (w : Wait) : IsMinor id (Task.pause w : Work Unit) :=
  ⟨fun _ => .mute (mute_pure ()), trivial⟩

/-- An act that is followed by a wait. -/
theorem minor_question {m : Act α} (hm : Mute id m) (w : Wait) :
    IsMinor id (.act m.run fun a => (Task.pause w).bind fun _ => .done a : Work α) :=
  all_act (fun _ => .mute hm) fun _ => (minor_pause w).bind fun _ => trivial

theorem minor_prompt (message : String) (choices : Host.Choices) :
    IsMinor id (Work.prompt message choices) :=
  minor_question (mute_prompt message choices) .dialog

theorem minor_pick (message : String) (items : List String) :
    IsMinor id (Work.pick message items) :=
  minor_question (mute_pick message items) .dialog

theorem minor_input (message default : String) (complaint : FileTree → String → Option String) :
    IsMinor id (Work.input message default complaint) :=
  all_act (fun _ => .mute mute_world) fun w =>
    minor_question (mute_input message default (complaint w.files)) .dialog

theorem minor_selectInterpreter : IsMinor id Work.selectInterpreter :=
  all_act (fun _ => .mute mute_selectInterpreter) fun _ => minor_pause .dialog

theorem minor_run (i : Invocation) : IsMinor id (Work.run i) :=
  all_act (fun _ => .mute (mute_launch i)) fun started =>
    (minor_pause (.until started.2)).bind fun _ => trivial

theorem minor_checkTool : IsMinor id (checkTool id).run :=
  all_first (fun _ => .mute mute_world) fun _ =>
    all_bind (all_ofWork (minor_run _)) fun _ => all_lift fun _ => .concludeTool _ _

theorem minor_checkRequirements : IsMinor id (checkRequirements id) := by
  refine Task.All.bind ?_ fun status =>
    all_act (fun _ => .note (fun _ => rfl) fun _ => rfl) fun _ => trivial
  refine all_act (fun _ => .mute mute_world) fun w => ?_
  dsimp only [Task.bind]
  split
  · trivial
  · exact (minor_run _).bind fun _ => trivial

theorem minor_ensureRequirements : IsMinor id (ensureRequirements id) := by
  refine minor_checkRequirements.bind fun status => ?_
  cases status with
  | unsatisfied =>
      refine (minor_prompt _ _).bind fun answer => ?_
      cases answer with
      | yes => exact all_lift fun _ => .install
      | suppress => exact all_lift fun _ => .mute mute_suppress
      | no => trivial
      | dismissed => trivial
  | satisfied => trivial
  | unknown => trivial

theorem minor_requirementsChanged : IsMinor id (requirementsChanged id) := by
  refine (minor_prompt _ _).bind fun answer => ?_
  cases answer with
  | yes => exact all_lift fun _ => .install
  | suppress => trivial
  | no => trivial
  | dismissed => trivial

/-! ### The operations -/

theorem built_create : IsBuilt id (create id).run := by
  refine all_first (fun _ => .minor (.mute mute_state)) fun s => ?_
  split
  · trivial
  · refine all_first (fun _ => .minor (.mute mute_world)) fun w => ?_
    refine all_bind (all_liftM (minor_input _ _ _).isBuilt) fun answer => ?_
    cases answer with
    | none => trivial
    | some folder =>
        refine all_first (fun _ => .note fun _ => rfl) fun _ => ?_
        refine all_bind (all_liftM minor_selectInterpreter.isBuilt) fun _ => ?_
        refine all_bind (all_catch minor_checkTool.isBuilt fun cause => ?_) fun _ => ?_
        · exact all_first (fun _ => .note fun _ => rfl) fun _ => trivial
        · exact all_bind (all_lift fun _ => .makeEnv folder) fun _ => trivial

theorem built_switchTo (names : List String) : IsBuilt id (switchTo id names).run := by
  unfold switchTo
  split
  · exact built_create
  · exact all_bind (all_lift fun _ => .adopt _) fun _ => trivial
  · refine all_bind (all_liftM (minor_pick _ _).isBuilt) fun picked => ?_
    cases picked with
    | none => trivial
    | some name =>
        dsimp only
        split
        · exact all_bind (all_lift fun _ => .adopt name) fun _ => trivial
        · trivial

theorem built_switch : IsBuilt id (switch id).run := by
  refine all_first (fun _ => .minor (.mute mute_world)) fun w => ?_
  refine all_bind (all_liftM (minor_prompt _ _).isBuilt) fun answer => ?_
  cases answer with
  | yes => exact built_switchTo _
  | suppress => exact all_first (fun _ => .minor (.mute mute_suppress)) fun _ => trivial
  | no => trivial
  | dismissed => trivial

theorem built_ensure : IsBuilt id (ensure id).run := by
  unfold ensure
  refine all_first (fun _ => .minor (.mute mute_world)) fun w => ?_
  -- Suppressed, inside already, or to be switched to.
  cases w.suppressed with
  | true => trivial
  | false =>
      rw [if_neg Bool.false_ne_true]
      cases isInside w (w.root id) with
      | true =>
          exact all_first (fun _ => .note fun _ => rfl) fun _ =>
            all_liftM minor_ensureRequirements.isBuilt
      | false =>
          refine all_bind built_switch fun switched => ?_
          cases switched with
          | true =>
              exact all_first (fun _ => .note fun _ => rfl) fun _ =>
                all_liftM minor_ensureRequirements.isBuilt
          | false => exact all_act (fun _ => .note fun _ => rfl) fun _ => trivial

end

/-- What can be asked of the environment of a project. -/
inductive Operation : Type → Type where
  | adopt (name : String) : Operation (Except Error Unit)
  | switch : Operation (Except Error Bool)
  | ensure : Operation (Except Error Unit)
  | create : Operation (Except Error Bool)
  | checkTool : Operation (Except Error Unit)
  | checkRequirements : Operation RequirementsStatus
  | settingsChanged : Operation Unit
  | requirementsChanged : Operation Unit
  | activate : Operation Unit
  | deactivate : Operation Unit
  | prependPath : Operation Unit
  | install : Operation Unit

namespace Operation

def task (id : ProjectId) {α : Type} : Operation α → Work α
  | .adopt name => Task.lift (Environment.adopt id name)
  | .switch => (Environment.switch id).run
  | .ensure => (Environment.ensure id).run
  | .create => (Environment.create id).run
  | .checkTool => (Environment.checkTool id).run
  | .checkRequirements => Environment.checkRequirements id
  | .settingsChanged => Task.lift (Environment.settingsChanged id)
  | .requirementsChanged => Environment.requirementsChanged id
  | .activate => Task.lift (Environment.activate id)
  | .deactivate => Task.lift (Environment.deactivate id)
  | .prependPath => Task.lift (Environment.prependPath id)
  | .install => Task.lift (Environment.install id)

theorem isBuilt (id : ProjectId) {α : Type} (op : Operation α) : IsBuilt id (op.task id) := by
  cases op with
  | adopt name => exact all_lift fun _ => .adopt name
  | switch => exact built_switch
  | ensure => exact built_ensure
  | create => exact built_create
  | checkTool => exact minor_checkTool.isBuilt
  | checkRequirements => exact minor_checkRequirements.isBuilt
  | settingsChanged => exact all_lift fun _ => .settingsChanged
  | requirementsChanged => exact minor_requirementsChanged.isBuilt
  | activate => exact all_lift fun _ => .minor .activate
  | deactivate => exact all_lift fun _ => .deactivate
  | prependPath => exact all_lift fun _ => .minor .prependPath
  | install => exact all_lift fun _ => .minor .install

end Operation

end Environment
end Testbench
