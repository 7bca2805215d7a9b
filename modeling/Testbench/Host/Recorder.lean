import Testbench.Host.Dialog

/-!
# Recorder — a host that answers from queues and writes everything down

A prompt without a queued answer is dismissed; a picker or an input box without one is cancelled.

- `Recorder`                      : queues, events, the editor, unsaved files and terminals;
- `RecordedTerminal`              : a terminal that keeps its lines.
-/

namespace Testbench
namespace Host

structure RecordedTerminal where
  name : String
  cwd : Path
  lines : List String
  /-- How often it was brought to the front. -/
  shown : Nat
  closed : Bool
  deriving Repr, Inhabited

structure Recorder where
  prompts : List Answer
  picks : List (Option String)
  inputs : List (Option String)
  events : List Event
  editor : Option Editor
  unsaved : List Path
  terminals : List RecordedTerminal
  deriving Repr, Inhabited

namespace Recorder

def fresh : Recorder := ⟨[], [], [], [], none, [], []⟩

def record (r : Recorder) (e : Event) : Recorder := { r with events := r.events ++ [e] }

/-! ## Dialogs -/

def prompt (r : Recorder) (message : String) : Recorder := r.record (.prompt message)

/-- The next queued answer. -/
def takePrompt (r : Recorder) : Answer × Recorder :=
  match r.prompts with
  | [] => (.dismissed, r)
  | a :: rest => (a, { r with prompts := rest })

def takePick (r : Recorder) : Option String × Recorder :=
  match r.picks with
  | [] => (none, r)
  | a :: rest => (a, { r with picks := rest })

def takeInput (r : Recorder) : Option String × Recorder :=
  match r.inputs with
  | [] => (none, r)
  | a :: rest => (a, { r with inputs := rest })

/-! ## Files -/

def isUnsaved (r : Recorder) (file : Path) : Bool := r.unsaved.any file.same

def save (r : Recorder) (file : Path) : Recorder :=
  { r with unsaved := r.unsaved.filter fun other => !file.same other }.record (.saved file)

/-! ## Terminals -/

def terminal? (r : Recorder) (name : String) : Option RecordedTerminal :=
  r.terminals.find? fun t => t.name == name

/-- The terminal of a name, made if there is none. -/
def openTerminal (r : Recorder) (name : String) (cwd : Path) : Recorder :=
  match r.terminal? name with
  | some _ => r
  | none => { r with terminals := r.terminals ++ [⟨name, cwd, [], 0, false⟩] }

def updateTerminal (r : Recorder) (name : String) (f : RecordedTerminal → RecordedTerminal) :
    Recorder :=
  { r with terminals := r.terminals.map fun t => if t.name == name then f t else t }

def send (r : Recorder) (name line : String) : Recorder :=
  r.updateTerminal name fun t => { t with lines := t.lines ++ [line] }

def showTerminal (r : Recorder) (name : String) : Recorder :=
  r.updateTerminal name fun t => { t with shown := t.shown + 1 }

def closeTerminal (r : Recorder) (name : String) : Recorder :=
  r.updateTerminal name fun t => { t with closed := true }

end Recorder
end Host
end Testbench
