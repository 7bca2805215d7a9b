import Testbench.Environment.Report
import Testbench.Environment.Version
import Testbench.Parsing
import Testbench.Settings
import Testbench.Terminal
import Testbench.TerminalLine

/-!
# Environment — the virtual environment of a project

A project uses the interpreter that its settings name. The tool can point the settings at another
environment of the project, make a new one, enter and leave environments in the project's terminal,
and install what the project requires.

- `interpreter`, `isInside`, `candidates` : what is there;
- `adopt`, `switch`, `create`, `ensure`   : getting an environment;
- `checkTool`, `checkRequirements`        : asking the interpreter;
- `settingsChanged`, `requirementsChanged` : following edits.
-/

namespace Testbench
namespace Environment

/-! ## What is there -/

def projectName (root : Path) : String := root.fileName?.getD root.text

/-- The package index from the project's settings, else from the configuration. -/
def packageIndex? (w : World) (root : Path) : Option String :=
  match Settings.text? w.files root Settings.pipSourceKey with
  | some index => some index
  | none => w.setup.config.pipSource

/-- Whether a directory holds the interpreter of an environment. -/
def isEnvBin (t : FileTree) (dir : Path) : Bool := t.isFile (dir.joinText Platform.markerName)

/-- Whether the interpreter of a project belongs to an environment. -/
def isInside (w : World) (root : Path) : Bool :=
  (interpreter w root).parent?.any (isEnvBin w.files)

/-- The names of the environments right in a project's root, sorted. -/
def candidates (w : World) (root : Path) : List String :=
  match w.files.list root with
  | .error _ => []
  | .ok entries => entries.filterMap fun (name, node) =>
    match node with
    | .dir =>
      if w.files.isFile (w.setup.platform.activationMarker (root.joinText name)) then some name
      else none
    | _ => none

def requirementsFile (root : Path) : Path := root.joinText ProjectFiles.requirementsName

/-! ## State and terminal -/

def state (id : ProjectId) : Act State := do pure ((← Act.world).project id).env

def update (id : ProjectId) (f : State → State) : Act Unit := modify (World.updateEnv id f)

def setPhase (id : ProjectId) (phase : Phase) : Act Unit :=
  update id fun s => { s with phase := phase }

def rootOf (id : ProjectId) : Act Path := do pure ((← Act.world).root id)

def send (id : ProjectId) (line : String) : Act Unit := do Terminal.send (← rootOf id) line

/-- Enter the environment in use, if there is one. -/
def activate (id : ProjectId) : Act Unit := do
  match (← state id).env with
  | some env => send id (TerminalLine.activate (← Act.world).setup.platform env)
  | none => pure ()

/-- Forget the environment in use, and leave it if it exists. -/
def deactivate (id : ProjectId) : Act Unit := do
  let w ← Act.world
  match (← state id).env with
  | some env =>
    if w.files.isFile (w.setup.platform.activationMarker env) then send id TerminalLine.deactivate
  | none => pure ()
  update id fun s => { s with env := none, phase := .outside }

/-- Put the directory of the interpreter first on the search path. -/
def prependPath (id : ProjectId) : Act Unit := do
  let w ← Act.world
  let dir := ((interpreter w (w.root id)).parent?).getD ⟨""⟩
  send id (TerminalLine.prependPath w.setup.platform dir)

/-- Install the requirements, if there are any. -/
def install (id : ProjectId) : Act Unit := do
  let w ← Act.world
  let root := w.root id
  if w.files.isFile (requirementsFile root) then
    send id (TerminalLine.pipInstall (interpreter w root) (requirementsFile root)
      (packageIndex? w root))

/-! ## Getting an environment -/

/-- Name the interpreter of an environment in the settings. -/
def nameInterpreter (id : ProjectId) (env : Path) : Act (Except Error Unit) := do
  let w ← Act.world
  let python := w.setup.platform.envPython env
  Act.onFiles fun t => Settings.set t (w.root id) Settings.pythonPathKey (.text python.text)

/-- Use and enter an environment from now on. -/
def enter (id : ProjectId) (env : Path) : Act Unit := do
  update id fun s => { s with env := some env, phase := .inside }
  activate id

/-- Point the settings at an environment in the root, and enter it. -/
def adopt (id : ProjectId) (name : String) : Act (Except Error Unit) := do
  let env := (← rootOf id).joinText name
  match ← nameInterpreter id env with
  | .error cause => pure (.error cause)
  | .ok () => do
    enter id env
    pure (.ok ())

/-- The run that tells the version of the tool that makes environments. -/
def versionInvocation (python : Path) : Invocation :=
  .here python.text ["-m", "virtualenv", "--version"]

def tooOldMessage : String :=
  "The installed virtualenv is too old. Upgrade it (python -m pip install -U virtualenv) and "
    ++ "create the environment again."

def notInstalledMessage : String :=
  "virtualenv is not installed for the selected interpreter. Install it (python -m pip install "
    ++ "virtualenv) and create the environment again."

/-- Take in what the version run came to. That the tool is missing is told once. -/
def concludeTool (id : ProjectId) (command : String) (outcome : Except Error Outcome) :
    Act (Except Error Unit) := do
  let missing (failure : String) : Act (Except Error Unit) := do
    Act.tell (Host.updateStatus ("virtualenv not installed: " ++ Text.trim failure))
    let told := (← state id).toolChecked
    update id fun s => { s with toolChecked := true }
    if !told then Act.tell (Host.showError notInstalledMessage)
    pure (.error (.tool command (Text.trim failure)))
  match outcome with
  | .error cause => missing cause.message
  | .ok o =>
    if !o.success then missing o.stderrText
    else if isRecent o.stdoutText then do
      update id fun s => { s with toolChecked := true }
      Act.tell (Host.updateStatus "Check virtualenv status ok")
      pure (.ok ())
    else do
      Act.tell (Host.showError tooOldMessage)
      pure (.error (.tool command ("unsupported version: " ++ Text.trim o.stdoutText)))

/-- Whether the interpreter can make environments. -/
def checkTool (id : ProjectId) : Attempt Unit := do
  let w ← Act.world
  let i := versionInvocation (interpreter w (w.root id))
  let outcome ← Attempt.ofWork (Work.run i)
  Attempt.ofAct (concludeTool id i.shellCommand outcome)

/-- What speaks against a name for the folder of a new environment. -/
def folderComplaint (root : Path) (t : FileTree) (name : String) : Option String :=
  if (Text.trim name).isEmpty then some "Enter a folder name"
  else if t.exists? (root.joinText name) then
    some ("A file or folder named " ++ name ++ " already exists")
  else none

/-- Start making an environment in the terminal, and use it. -/
def makeEnv (id : ProjectId) (folder : String) : Act (Except Error Unit) := do
  let w ← Act.world
  let env := (w.root id).joinText (Text.trim folder)
  send id (TerminalLine.createVirtualenv (interpreter w (w.root id)) env)
  match ← nameInterpreter id env with
  | .error cause => do
    let message := "Create env dir failed: " ++ cause.message
    Act.tell (Host.showError message)
    setPhase id .outside
    pure (.error (.environment message))
  | .ok () => do
    enter id env
    pure (.ok ())

/-- Make a new environment, at most once per project. Tells whether one was made. -/
def create (id : ProjectId) : Attempt Bool := do
  if (← state id).initialized then pure false
  else
    let w ← Act.world
    let root := w.root id
    match ← Work.input "Virtual environment folder:" w.setup.config.envDirName
        (folderComplaint root) with
    | none => pure false
    | some folder => do
      update id fun s => { s with initialized := true, phase := .initializing }
      Work.selectInterpreter
      try checkTool id catch cause => do
        setPhase id .outside
        throw cause
      Attempt.ofAct (makeEnv id folder)
      pure true

def suppress : Act Unit := modify fun w => { w with suppressed := true }

def switchMessage (root : Path) (names : List String) : String :=
  if names.isEmpty then
    "No virtual environment found in project " ++ projectName root
      ++ ". Create one and switch to it?"
  else "Found a virtual environment in project " ++ projectName root ++ ". Switch to it?"

def pickMessage : String :=
  "Several virtual environments found. Choose the one the terminal should use (Esc to cancel)"

/-- The environment to switch to, once the answer was yes. -/
def switchTo (id : ProjectId) : List String → Attempt Bool
  | [] => create id
  | [only] => do
    Attempt.ofAct (adopt id only)
    pure true
  | names => do
    match ← Work.pick pickMessage names with
    | some name =>
      if names.contains name then do
        Attempt.ofAct (adopt id name)
        pure true
      else pure false
    | none => pure false

/-- Offer an environment of the project, or a new one. Tells whether one is in use now. -/
def switch (id : ProjectId) : Attempt Bool := do
  let w ← Act.world
  let root := w.root id
  let names := candidates w root
  match ← Work.prompt (switchMessage root names) .yesNoSuppress with
  | .yes => switchTo id names
  | .suppress => do
    suppress
    pure false
  | .no | .dismissed => pure false

/-! ## Requirements -/

/-- The run that tells whether the requirements of a project are met. -/
def requirementsInvocation (w : World) (root : Path) : Invocation where
  program := (interpreter w root).text
  arguments := [w.setup.scripts.requirements.text, (requirementsFile root).text]
  workingDir := some root

def queryRequirements (id : ProjectId) : Work RequirementsStatus := do
  let w ← Act.world
  let root := w.root id
  if !w.files.isFile (requirementsFile root) then pure .unknown
  else
    let outcome ← Work.run (requirementsInvocation w root)
    pure (statusOf outcome)

/-- Ask the interpreter whether the requirements are met, and note the answer. -/
def checkRequirements (id : ProjectId) : Work RequirementsStatus := do
  let status ← queryRequirements id
  update id fun s => { s with requirements := some status }
  pure status

def installMessage : String :=
  "The current environment does not match requirements.txt. Install the requirements?"

/-- Check the requirements, and offer to install them. -/
def ensureRequirements (id : ProjectId) : Work Unit := do
  match ← checkRequirements id with
  | .unsatisfied => do
    match ← Work.prompt installMessage .yesNoSuppress with
    | .yes => install id
    | .suppress => suppress
    | .no | .dismissed => pure ()
  | .satisfied | .unknown => pure ()

/-- See to it that an environment is in use and the requirements are met, unless questions about
that are no longer asked. -/
def ensure (id : ProjectId) : Attempt Unit := do
  let w ← Act.world
  if w.suppressed then pure ()
  else if isInside w (w.root id) then do
    setPhase id .inside
    ensureRequirements id
  else if ← switch id then do
    update id fun s => { s with initialized := true }
    ensureRequirements id
  else setPhase id .outside

/-! ## Following edits -/

/-- Enter or leave environments as the edited settings say. -/
def settingsChanged (id : ProjectId) : Act Unit := do
  let w ← Act.world
  let bin := (interpreter w (w.root id)).parent?
  let configured := bin.bind Path.parent?
  let s ← state id
  let unchanged := match s.env, configured with
    | some env, some dir => env.same dir
    | none, none => true
    | _, _ => false
  if s.phase == .inside && unchanged then pure ()
  else match (bin.filter (isEnvBin w.files)).bind Path.parent? with
    | some env => enter id env
    | none => do
      deactivate id
      prependPath id

def reinstallMessage : String := "requirements.txt changed. Reinstall the requirements?"

/-- Offer to install the edited requirements. -/
def requirementsChanged (id : ProjectId) : Work Unit := do
  match ← Work.prompt reinstallMessage .yesNo with
  | .yes => install id
  | _ => pure ()

end Environment
end Testbench
