import Testbench.Shell.Command
import Testbench.Shell.Pattern
import Testbench.Shell.Tool

/-!
# State — what a running shell knows

- `State`, `Stop`, `Action` : a shell, how it ends early, and what it does;
- `Sink`, `Streams`         : where output goes;
- `Fields`                  : words after everything was put in;
- `within`, `inSubshell`, `capture`, `inLoop`, `inFunction` : parts of a run.
-/

namespace Testbench
namespace Shell

structure Variable where
  name : String
  value : String
  exported : Bool
  deriving DecidableEq, Repr, Inhabited

/-- Where output goes. -/
inductive Sink where
  | out
  | err
  /-- What an enclosing command reads, counted from the outermost one. -/
  | captured (index : Nat)
  | file (p : Path)
  | nowhere
  deriving Inhabited

/-- What descriptors lead to. -/
abbrev Streams := List (Nat × Sink)

namespace Streams

def sink? (streams : Streams) (descriptor : Nat) : Option Sink :=
  (streams.find? fun entry => entry.1 == descriptor).map (·.2)

def close (descriptor : Nat) (streams : Streams) : Streams :=
  streams.filter fun entry => entry.1 != descriptor

def put (descriptor : Nat) (sink : Sink) (streams : Streams) : Streams :=
  (descriptor, sink) :: streams.close descriptor

end Streams

structure State where
  /-- The files, with the directory the shell is in. -/
  files : FileTree
  bindings : List Variable
  functions : List (String × Command)
  /-- What the names that are local to the running functions held before, the innermost first. -/
  hidden : List (List (String × Option Variable))
  /-- Letters of the options that are on. -/
  options : List Char
  /-- What is done on a signal; zero stands for the end of the shell. -/
  traps : List (Nat × List Char)
  streams : Streams
  /-- What is still to be read. -/
  input : ByteArray
  /-- Milliseconds that programs have slept. -/
  elapsed : Nat
  /-- The name under which the shell reports errors. -/
  name : String
  /-- What the errors of the running text are reported of. -/
  label : String
  parameters : List String
  /-- The exit code of the last command. -/
  status : Nat
  /-- The exit code of the last command in the background. -/
  background : Option Nat
  /-- The exit code of the last command that the words of the current one are made with. -/
  substituted : Option Nat
  line : Nat
  /-- Whether a failure is looked at. -/
  tested : Bool
  /-- How many loops are running. -/
  loops : Nat
  out : ByteArray
  err : ByteArray
  captures : Array ByteArray

/-- Why a list of commands is left. -/
inductive Stop where
  | exit (code : Nat)
  | killed (signal : Nat)
  /-- So many loops are left, or the last of them goes on with its next round. -/
  | loop (again : Bool) (levels : Nat)
  /-- The innermost function or script is left. -/
  | back
  deriving DecidableEq, Repr, Inhabited

abbrev Action := ExceptT Stop (StateM State)

/-- The number that stands for the shell's own process. -/
def ownProcess : String := "4242"

/-- The number that stands for the last process in the background. -/
def backgroundProcess : String := "4243"

/-! ## Output -/

/-- The bytes of a sink so far are followed by others. -/
def pour (sink : Sink) (bytes : ByteArray) (s : State) : State :=
  match sink with
  | .out => { s with out := s.out ++ bytes }
  | .err => { s with err := s.err ++ bytes }
  | .captured index => { s with captures := s.captures.modify index (· ++ bytes) }
  | .nowhere => s
  | .file p =>
    let before := ((s.files.read p).toOption).getD ByteArray.empty
    match s.files.write p (before ++ bytes) with
    | .ok files => { s with files := files }
    | .error _ => s

/-- Write to a descriptor; nothing is written to one that leads nowhere. -/
def emit (descriptor : Nat) (bytes : ByteArray) : Action Unit := modify fun s =>
  match s.streams.sink? descriptor with
  | some sink => pour sink bytes s
  | none => s

def setStatus (code : Nat) : Action Unit := modify fun s => { s with status := code }

/-- Report what is wrong with a command. -/
def complain (text : String) : Action Unit := do
  let s ← get
  emit 2 (s.name ++ ": " ++ String.ofList (decimal s.line) ++ ": " ++ text ++ "\n").toUTF8

/-- Report an error of the running text. -/
def report (text : String) : Action Unit := do complain ((← get).label ++ text)

/-! ## Variables -/

def find? (s : State) (name : String) : Option String :=
  (s.bindings.find? fun v => v.name == name).map (·.value)

def assign (s : State) (name value : String) : State :=
  if s.bindings.any fun v => v.name == name then
    { s with bindings := s.bindings.map fun v =>
      if v.name == name then { v with value := value } else v }
  else { s with bindings := s.bindings ++ [⟨name, value, false⟩] }

def exportName (s : State) (name : String) : State :=
  if s.bindings.any fun v => v.name == name then
    { s with bindings := s.bindings.map fun v =>
      if v.name == name then { v with exported := true } else v }
  else s

def unset (s : State) (name : String) : State :=
  { s with bindings := s.bindings.filter fun v => v.name != name }

/-- Characters at which values are split. -/
def separators (s : State) : List Char := ((find? s "IFS").getD " \t\n").toList

/-- What stands between parameters that are joined. -/
def joint (s : State) : String := String.ofList ((separators s).take 1)

/-- The value of a name, if it is set. -/
def value? (s : State) (name : String) : Option String :=
  if name == "?" then some (String.ofList (decimal s.status))
  else if name == "#" then some (String.ofList (decimal s.parameters.length))
  else if name == "$" then some ownProcess
  else if name == "-" then some (String.ofList s.options)
  else if name == "!" then s.background.map fun _ => backgroundProcess
  else if name == "@" || name == "*" then
    some ((joint s).intercalate s.parameters)
  else if name == "0" then some s.name
  else match Text.readNat? name.toList with
    | some n => s.parameters[n - 1]?
    | none => find? s name

/-- The value of a name, empty if it has none. -/
def valueOf (s : State) (name : String) : String := (value? s name).getD ""

def isOn (s : State) (option : Char) : Bool := s.options.contains option

def function? (s : State) (name : String) : Option Command :=
  (s.functions.find? fun f => f.1 == name).map (·.2)

/-- Make a name local to the running function. -/
def hide (s : State) (name : String) : State :=
  match s.hidden with
  | frame :: frames =>
    { s with hidden := ((name, s.bindings.find? fun v => v.name == name) :: frame) :: frames }
  | [] => s

/-- Put back what a name held. -/
def reveal (s : State) (entry : String × Option Variable) : State :=
  { s with bindings := (s.bindings.filter fun v => v.name != entry.1) ++ entry.2.toList }

/-- What programs inherit. -/
def environment (s : State) : List (String × String) :=
  (s.bindings.filter (·.exported)).map fun v => (v.name, v.value)

/-- Give values to names, which programs inherit. -/
def lend (assigned : List (String × String)) (s : State) : State :=
  assigned.foldl (fun s a => exportName (assign s a.1 a.2) a.1) s

/-- Put back what names held in a state before. -/
def revealAs (before : State) (names : List String) (after : State) : State :=
  names.foldl (fun s name => reveal s (name, before.bindings.find? fun v => v.name == name)) after

/-! ## Fields -/

/-- The fields so far, and the one that is being put together. -/
structure Fields where
  /-- Characters at which values are split. -/
  separators : List Char
  done : List Pattern
  current : Option Pattern
  /-- Whether the last field was ended by a blank. -/
  rested : Bool
  deriving Inhabited

namespace Fields

/-- No fields; values will be split at separators. -/
def split (separators : List Char) : Fields := ⟨separators, [], none, false⟩

/-- No fields; values will not be split. -/
def whole : Fields := split []

def add (f : Fields) (p : Pattern) : Fields :=
  { f with current := some (f.current.getD [] ++ p), rested := false }

def finish (f : Fields) : Fields :=
  match f.current with
  | some p => { f with done := f.done ++ [p], current := none }
  | none => f

/-- Add a character that is split at separators. A blank ends a field; any other separator ends one
even if it is empty, but not a second one after a blank. -/
def addChar (f : Fields) (c : Char) : Fields :=
  if !f.separators.contains c then f.add [(c, false)]
  else if isSpace c || c == '\n' then { f.finish with rested := f.rested || f.current.isSome }
  else if f.rested then { f with rested := false }
  else (f.add []).finish

def addSplit (f : Fields) (cs : List Char) : Fields := cs.foldl addChar f

def addQuoted (f : Fields) (cs : List Char) : Fields := f.add (cs.map fun c => (c, true))

/-- Add a text that was put in. -/
def addText (f : Fields) (quoted : Bool) (cs : List Char) : Fields :=
  if quoted then f.addQuoted cs else f.addSplit cs

/-- Add texts of which the first goes on with the current field and each other starts a new one. -/
def addEach (f : Fields) (quoted : Bool) : List String → Fields
  | [] => f
  | [s] => f.addText quoted s.toList
  | s :: rest => { (f.addText quoted s.toList).finish with rested := false }.addEach quoted rest

/-- Add what a name stands for. -/
def addValue (f : Fields) (s : State) (quoted : Bool) (name : String) : Fields :=
  if name == "@" || (name == "*" && !quoted) then f.addEach quoted s.parameters
  else f.addText quoted (valueOf s name).toList

/-- The fields. -/
def toList (f : Fields) : List Pattern := f.finish.done

/-- All fields as one text. -/
def joined (f : Fields) : Pattern := ([(' ', true)] : Pattern).intercalate f.toList

end Fields

/-! ## Parts of a run -/

/-- Run something in a changed state; of that state, `restore` puts back what held before. -/
def within {α : Type} (change : State → State) (restore : (before after : State) → State)
    (body : Action α) : Action α := fun s =>
  let (outcome, after) := body (change s)
  (outcome, restore s after)

/-- The exit code of a shell that is left early. -/
def codeOf (stop : Stop) (s : State) : Nat :=
  match stop with
  | .exit code => code
  | .killed signal => 128 + signal
  | .loop .. | .back => s.status

/-- Do what is to be done at the end of a shell. -/
def withFarewell (run : List Char → Action Unit) (body : Action Unit) : Action Unit := fun s =>
  match body { s with traps := [] } with
  | (.error (.killed signal), s) => (.error (.killed signal), s)
  | (outcome, s) =>
    let code := match outcome with
      | .ok () => s.status
      | .error stop => codeOf stop s
    let s := { s with status := code }
    match s.traps.find? fun t => t.1 == 0 with
    | none => (.ok (), s)
    | some (_, text) => match run text { s with traps := [] } with
      | (.ok (), after) => (.ok (), { after with status := code })
      | r => r

/-- Run something in a shell of its own: only files, streams and status are kept. -/
def inSubshell (body : Action Unit) : Action Unit := fun s =>
  let (outcome, after) := body s
  let code := match outcome with
    | .ok () => after.status
    | .error stop => codeOf stop after
  let kept := { s with
    files := { after.files with cwd := s.files.cwd }, status := code, input := after.input
    elapsed := after.elapsed, out := after.out, err := after.err, captures := after.captures }
  match outcome with
  | .error (.killed signal) => (.error (.killed signal), kept)
  | _ => (.ok (), kept)

/-- Run something that writes to the output, and take what it wrote. -/
def capture (body : Action Unit) : Action ByteArray := do
  let index := (← get).captures.size
  within (fun s => { s with
      captures := s.captures.push ByteArray.empty, streams := s.streams.put 1 (.captured index) })
    (fun before after => { after with streams := before.streams }) (inSubshell body)
  let after ← get
  set { after with captures := after.captures.pop }
  pure (after.captures.back?.getD ByteArray.empty)

/-- Run something that reads from an input of its own, if there is one. -/
def withInput (input : Option ByteArray) (body : Action Unit) : Action Unit :=
  match input with
  | none => body
  | some bytes =>
    within (fun s => { s with input := bytes })
      (fun before after => { after with input := before.input }) body

/-- Run something with other streams, which are put back. -/
def withStreams (streams : Streams) (body : Action Unit) : Action Unit :=
  within (fun s => { s with streams := streams })
    (fun before after => { after with streams := before.streams }) body

/-- Run something of which a failure is looked at. -/
def whileTested (body : Action Unit) : Action Unit :=
  within (fun s => { s with tested := true })
    (fun before after => { after with tested := before.tested }) body

/-- Run a text whose errors are reported of something. -/
def labelled (label : String) (body : Action Unit) : Action Unit :=
  within (fun s => { s with label := label ++ ": " })
    (fun before after => { after with label := before.label }) body

/-- Run something with values that names have meanwhile. -/
def lending (assigned : List (String × String)) (body : Action Unit) : Action Unit :=
  within (lend assigned) (fun before after => revealAs before (assigned.map (·.1)) after) body

/-- A failure that nobody looks at ends the shell, if the option for that is on. -/
def leaveOnFailure : Action Unit := do
  let s ← get
  if isOn s 'e' && s.status != 0 && !s.tested then throw (.exit s.status)

/-- Run the body of a loop. Tells whether the loop is left. -/
def inLoop (body : Action Unit) : Action Bool := fun s =>
  let (outcome, after) := body { s with loops := s.loops + 1 }
  let after := { after with loops := s.loops }
  match outcome with
  | .ok () => (.ok false, after)
  | .error (.loop again levels) =>
    if levels ≤ 1 || s.loops == 0 then (.ok (!again), after)
    else (.error (.loop again (levels - 1)), after)
  | .error stop => (.error stop, after)

/-- Run something that can be returned from. -/
def untilBack (body : Action Unit) : Action Unit := fun s =>
  match body s with
  | (.error .back, after) => (.ok (), after)
  | r => r

/-- Run the body of a function with parameters of its own. -/
def inFunction (parameters : List String) (body : Action Unit) : Action Unit :=
  untilBack (within
    (fun s => { s with parameters := parameters, hidden := [] :: s.hidden, loops := 0 })
    (fun before after =>
      let shown := (after.hidden.headD []).foldl reveal after
      { shown with
        parameters := before.parameters, hidden := before.hidden, loops := before.loops })
    body)

end Shell
end Testbench
