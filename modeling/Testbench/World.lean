import Testbench.Task
import Testbench.Config
import Testbench.Cache.Store
import Testbench.HelperScript.Location
import Testbench.Platform
import Testbench.Outline.Node
import Testbench.Process.Script
import Testbench.Process.Live
import Testbench.Environment.State
import Testbench.Host

/-!
# World — all that a running workspace can see and change

- `Setup`   : what was decided when the workspace was opened;
- `Project`, `Parser` : an open project, and what runs helper scripts;
- `World`   : files, clock, host, processes, and the state of the workspace's services;
- `Wait`, `Work` : what work waits for, and work on a world.
-/

namespace Testbench

structure Setup where
  config : Config
  platform : Platform
  scripts : HelperScripts
  /-- Whether a project is set up as soon as it is opened. -/
  initOnOpen : Bool
  deriving Inhabited

structure Project where
  root : Path
  env : Environment.State
  watching : Bool
  deriving Inhabited

/-- The number of a project in the order of opening. -/
abbrev ProjectId := Nat

/-- What runs helper scripts: the interpreter of a project, or one that the parser was made with.
Those made with the same one are told apart by their numbers. -/
inductive Parser where
  | ofProject (project : ProjectId)
  | fixed (python script : Path) (number : Nat)
  deriving DecidableEq, Repr

/-- The top level of the outline as it was listed last, and the file it was listed for. -/
structure RootListing where
  file : Path
  nodes : List Outline.Node
  deriving Inhabited

/-- Nodes are numbered as they are made. The count has no largest number; one of 64 bits numbers
them alike as long as there are fewer than 2^64. -/
structure ListingState where
  last : Option RootListing
  /-- How many listings are being made. -/
  active : Nat
  refreshing : Bool
  /-- Nodes whose tooltips are settled. -/
  settled : List Nat
  nextNode : Nat
  deriving Inhabited

def ListingState.initial : ListingState := ⟨none, 0, false, [], 1⟩

/-- For each document, the numbers of its lenses by line. Like nodes, lenses are counted without a
largest number. -/
structure LensState where
  nextId : Nat
  documents : List (Path × List (Nat × Nat))
  deriving Inhabited

def LensState.initial : LensState := ⟨1, []⟩

/-- Work to be done in the background. -/
inductive Job where
  | settleTooltips (nodes : List Outline.Node)
  | setUp (project : ProjectId)

/-- Where processes run. -/
inductive Runner where
  | script (s : Script)
  /-- On the files of the world. -/
  | files

instance : Inhabited Runner := ⟨.files⟩

/-- The clock that writes the parse cache behind. -/
structure Flusher where
  next : Nat
  period : Nat
  deriving Inhabited

structure World where
  files : FileTree
  /-- Milliseconds since the start. -/
  now : Nat
  host : Host
  runner : Runner
  setup : Setup
  cache : Cache.Store
  /-- Whether questions about environments are no longer asked. -/
  suppressed : Bool
  /-- Every project that was ever opened. -/
  projects : List Project
  /-- The live projects in the order in which they were added. -/
  registry : List ProjectId
  listing : ListingState
  lenses : LensState
  /-- Work that was sent to the background and has not been taken up. -/
  jobs : List Job
  /-- Tickets of those who want a parser, in the order they came. The first has it. -/
  turns : Parser → List Nat
  /-- Numbers tickets, and parsers that were made. -/
  nextTicket : Nat
  flusher : Option Flusher
  deriving Inhabited

/-- What suspended work waits for. -/
inductive Wait where
  /-- A person, or the editor that a person works with. -/
  | dialog
  /-- A time, or for ever. -/
  | until (due : Option Nat)
  /-- Its turn at a parser. -/
  | turn (parser : Parser) (ticket : Nat)
  /-- That no listing is being made. -/
  | idle
  deriving DecidableEq, Repr

/-- One atomic change. -/
abbrev Act := StateM World

/-- Work that other work may come between. -/
abbrev Work := Task Wait World

/-- Work that may fail. -/
abbrev Attempt := ExceptT Error Work

namespace World

/-- A workspace with nothing open, whose cache is flushed from now on. -/
def start (files : FileTree) (host : Host) (runner : Runner) (setup : Setup) : World where
  files := files
  now := 0
  host := host
  runner := runner
  setup := setup
  cache := .empty
  suppressed := false
  projects := []
  registry := []
  listing := .initial
  lenses := .initial
  jobs := []
  turns _ := []
  nextTicket := 0
  flusher := some ⟨setup.config.flushMillis, setup.config.flushMillis⟩

/-- A new workspace in the same world. -/
def restart (w : World) : World :=
  { w with
    cache := .empty
    suppressed := false
    registry := []
    listing := { ListingState.initial with nextNode := w.listing.nextNode }
    lenses := .initial
    flusher := some ⟨w.now + w.setup.config.flushMillis, w.setup.config.flushMillis⟩ }

/-! ## Projects -/

def project (w : World) (id : ProjectId) : Project := (w.projects[id]?).getD default

def root (w : World) (id : ProjectId) : Path := (w.project id).root

def updateProject (id : ProjectId) (f : Project → Project) (w : World) : World :=
  { w with projects := w.projects.modify id f }

def updateEnv (id : ProjectId) (f : Environment.State → Environment.State) (w : World) : World :=
  w.updateProject id fun p => { p with env := f p.env }

/-! ## Turns -/

def updateTurns (p : Parser) (f : List Nat → List Nat) (w : World) : World :=
  { w with turns := fun q => if q = p then f (w.turns q) else w.turns q }

@[simp] theorem turns_updateTurns (p : Parser) (f : List Nat → List Nat) (w : World) :
    (w.updateTurns p f).turns p = f (w.turns p) := if_pos rfl

/-! ## Waiting -/

/-- Whether what work waits for has come. -/
def isReady (w : Wait) (world : World) : Bool :=
  match w with
  | .dialog => true
  | .until due => due.any (· ≤ world.now)
  | .turn p ticket => (world.turns p).head? == some ticket
  | .idle => !world.listing.refreshing

end World

/-! ## Acts -/

namespace Act

def world : Act World := get

/-- Change the host and tell what it answers. -/
def ask {α : Type} (question : Host → α × Host) : Act α := do
  let w ← get
  let (answer, host) := question w.host
  set { w with host := host }
  pure answer

def tell (message : Host → Host) : Act Unit := modify fun w => { w with host := message w.host }

/-- Change files and tell what came of it. -/
def onFiles {α : Type} (change : FileTree → α × FileTree) : Act α := do
  let w ← get
  let (answer, files) := change w.files
  set { w with files := files }
  pure answer

/-- Send work to the background. -/
def spawn (job : Job) : Act Unit := modify fun w => { w with jobs := w.jobs ++ [job] }

end Act

/-- An atomic part of an attempt. -/
def Attempt.ofAct {α : Type} (act : Act (Except Error α)) : Attempt α :=
  ExceptT.mk (Task.lift act)

/-- A part of an attempt that cannot fail. -/
def Attempt.ofWork {α : Type} (work : Work α) : Attempt α := ExceptT.lift work

/-! ## Questions to a person

The question is put at once. Other work may go on before the answer is looked at. -/

namespace Work

def prompt (message : String) (choices : Host.Choices) : Work Host.Answer := do
  let answer ← Act.ask (Host.prompt message choices)
  Task.pause .dialog
  pure answer

def pick (message : String) (items : List String) : Work (Option String) := do
  let answer ← Act.ask (Host.pick message items)
  Task.pause .dialog
  pure answer

/-- Ask for a text; complaints may depend on the files. -/
def input (message default : String) (complaint : FileTree → String → Option String) :
    Work (Option String) := do
  let files := (← Act.world).files
  let answer ← Act.ask (Host.input message default (complaint files))
  Task.pause .dialog
  pure answer

def selectInterpreter : Work Unit := do
  Act.tell Host.selectInterpreter
  Task.pause .dialog

/-! ## What an editor does -/

def save (file : Path) : Work Unit := do
  Act.tell (Host.save file)
  Task.pause .dialog

def openFile (file : Path) (line : Option Nat) : Work Unit := do
  Act.tell (Host.openFile file line)
  Task.pause .dialog

/-! ## Running programs -/

/-- Start a program: what it will come to, and when. -/
def launch (i : Invocation) : Act (Except Error Outcome × Option Nat) := do
  let w ← get
  match w.runner with
  | .script s =>
    set { w with runner := .script (s.record i) }
    let outcome := match s.reply i with
      | .ok o => Except.ok o
      | .error message => Except.error (.tool i.shellCommand message)
    pure (outcome, s.due w.now i)
  | .files =>
    let (outcome, millis, files) := i.run w.files
    set { w with files := files }
    pure (outcome, some (w.now + millis))

/-- Run a program to its end. -/
def run (i : Invocation) : Work (Except Error Outcome) := do
  let (outcome, due) ← launch i
  Task.pause (.until due)
  pure outcome

end Work
end Testbench
