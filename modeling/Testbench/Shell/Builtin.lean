import Testbench.Shell.State
import Testbench.Shell.Test

/-!
# Builtin — what a shell does itself

- `changeDir`, `exportWord`, `readCommand`, … : builtins that run no other command;
- `plainBuiltin?`                             : the builtin of a name;
- `signalOf?`, `signalText?`                  : signals.
-/

namespace Testbench
namespace Shell

/-! ## Errors -/

/-- Report an error that ends the shell. -/
def giveUp {α : Type} (text : String) : Action α := do
  report text
  throw (.exit 2)

/-- An error of a builtin, which ends the shell if the builtin is a special one. -/
def fault (name text : String) : Action Unit := do
  complain (name ++ ": " ++ text)
  if specialBuiltins.contains name then throw (.exit 2) else setStatus 2

/-- The number that an argument is. -/
def numberOr (name : String) (isValid : Nat → Bool) (argument : String) : Action Nat := do
  match (Text.readNat? argument.toList).filter isValid with
  | some n => pure n
  | none => do
    complain (name ++ ": Illegal number: " ++ argument)
    throw (.exit 2)

/-! ## Directories -/

/-- Go to a directory; `-` stands for the last one, whose name is printed. -/
def changeDir (arguments : List String) : Action Unit := do
  let s ← get
  let here := s.files.cwd
  let target := match arguments with
    | "-" :: _ => (find? s "OLDPWD").getD here.text
    | target :: _ => target
    | [] => (find? s "HOME").getD here.text
  let dir := (here.join ⟨target⟩).fold
  if s.files.isDir dir then do
    let s := assign (assign s "OLDPWD" here.text) "PWD" dir.text
    set { s with files := { s.files with cwd := dir }, status := 0 }
    if arguments.head? == some "-" then emit 1 (dir.text ++ "\n").toUTF8
  else fault "cd" ("can't cd to " ++ target)

/-! ## Names and parameters -/

/-- Export a name, with a value if one is given. -/
def exportWord (s : State) (word : String) : State :=
  match Text.splitFirst? '=' word.toList with
  | some (name, value) => lend [(String.ofList name, String.ofList value)] s
  | none => exportName s word

/-- Give a name a value if there is one. -/
def setWord (s : State) (word : String) : State :=
  match Text.splitFirst? '=' word.toList with
  | some (name, value) => assign s (String.ofList name) (String.ofList value)
  | none => s

/-- Names, with values if these are given, that are local to the running function. -/
def localWord (s : State) (word : String) : State :=
  match Text.splitFirst? '=' word.toList with
  | some (name, value) =>
    assign (hide s (String.ofList name)) (String.ofList name) (String.ofList value)
  | none => hide s word

def makeLocal (words : List String) : Action Unit := do
  if (← get).hidden.isEmpty then fault "local" "not in a function"
  else modify fun s => { words.foldl localWord s with status := 0 }

/-- The letters that an argument of `set` turns on or off. -/
def optionsOf (on : Bool) (letters : List Char) (s : State) : State :=
  { s with
    options := (s.options.filter fun c => !letters.contains c) ++ if on then letters else [] }

/-- The letter of an option with a long name. -/
def optionLetter? : String → Option Char
  | "errexit" => some 'e'
  | "nounset" => some 'u'
  | "xtrace" => some 'x'
  | "noexec" => some 'n'
  | _ => none

/-- Options, and parameters if any are given. -/
def setCommand : List String → State → State
  | [], s => s
  | a :: name :: rest, s =>
    match a.toList with
    | ['-', '-'] => { s with parameters := name :: rest }
    | [sign, 'o'] => setCommand rest (optionsOf (sign == '-') (optionLetter? name).toList s)
    | '-' :: c :: letters => setCommand (name :: rest) (optionsOf true (c :: letters) s)
    | '+' :: c :: letters => setCommand (name :: rest) (optionsOf false (c :: letters) s)
    | _ => { s with parameters := a :: name :: rest }
  | [a], s =>
    match a.toList with
    | ['-', '-'] => { s with parameters := [] }
    | '-' :: c :: letters => optionsOf true (c :: letters) s
    | '+' :: c :: letters => optionsOf false (c :: letters) s
    | _ => { s with parameters := [a] }

def shift (arguments : List String) : Action Unit := do
  let n ← match arguments with
    | a :: _ => numberOr "shift" (fun _ => true) a
    | [] => pure 1
  if n > (← get).parameters.length then fault "shift" "can't shift that many"
  else modify fun s => { s with parameters := s.parameters.drop n, status := 0 }

/-! ## Leaving -/

/-- The exit code that a command of a name is given, else the one of the last command. -/
def exitCode (name : String) : List String → Action Nat
  | [] => do pure (← get).status
  | a :: _ => do pure ((← numberOr name (fun _ => true) a) % 256)

/-- Leave loops, as many as are asked for and running. -/
def leaveLoops (name : String) (again : Bool) (arguments : List String) : Action Unit := do
  let levels ← match arguments with
    | a :: _ => numberOr name (· > 0) a
    | [] => pure 1
  if (← get).loops == 0 then setStatus 0 else throw (.loop again levels)

/-! ## Input -/

/-- The next line of the input, and whether it has an end. -/
def takeLine : Action (List Char × Bool) := do
  let s ← get
  let bytes := s.input.toList
  let line := bytes.takeWhile (· != newlineByte)
  let rest := bytes.drop line.length
  set { s with input := ⟨(rest.drop 1).toArray⟩ }
  pure (((String.fromUTF8? ⟨line.toArray⟩).getD "").toList, !rest.isEmpty)

/-- A text without backslashes, each of which protects the next character. -/
def unescaped : List Char → List Char
  | '\\' :: c :: rest => c :: unescaped rest
  | ['\\'] => []
  | c :: rest => c :: unescaped rest
  | [] => []

/-- Split a line for some names: the last one gets all that is left. -/
def splitFor (separators : List Char) : List String → List Char → List (String × List Char)
  | [], _ => []
  | [name], cs =>
    let isBlank (c : Char) : Bool := separators.contains c && isSpace c
    [(name, ((cs.dropWhile isBlank).reverse.dropWhile isBlank).reverse)]
  | name :: names, cs =>
    let isBlank (c : Char) : Bool := separators.contains c && isSpace c
    let (field, rest) := (cs.dropWhile isBlank).span fun c => !separators.contains c
    let rest := rest.dropWhile isBlank
    let rest := match rest with
      | c :: more => if separators.contains c then more else rest
      | [] => []
    (name, field) :: splitFor separators names rest

def readCommand (arguments : List String) : Action Unit := do
  let (letters, names) := flags arguments
  let (line, complete) ← takeLine
  let line := if letters.contains 'r' then line else unescaped line
  let fields := splitFor (separators (← get)) names line
  modify fun s => { fields.foldl (fun s f => assign s f.1 (String.ofList f.2)) s with
    status := if complete then 0 else 1 }

/-! ## Output -/

def printBytes (bytes : List UInt8) : Action Unit := do
  emit 1 ⟨bytes.toArray⟩
  setStatus 0

def printLine (text : String) : Action Unit := printBytes (text ++ "\n").toUTF8.toList

def complainEach (name : String) : List String → Action Unit
  | [] => pure ()
  | text :: rest => do
    complain (name ++ ": " ++ text)
    complainEach name rest

def printFormatted (f : Formatted) : Action Unit := do
  printBytes f.bytes
  complainEach "printf" f.complaints
  setStatus (if f.complaints.isEmpty then 0 else if f.stopped then 2 else 1)

/-! ## Conditions -/

def testCommand (name : String) (condition : Except TestError Bool) : Action Unit := do
  match condition with
  | .ok holds => setStatus (if holds then 0 else 1)
  | .error e => fault name e.message

/-- The words between the brackets of a condition. -/
def bracketed (arguments : List String) : Except TestError (List String) :=
  if arguments.getLast? == some "]" then .ok arguments.dropLast else .error .missingBracket

/-! ## Signals -/

/-- Signals with their names, and what a shell says of a program that one has ended. -/
def signals : List (Nat × String × Option String) :=
  [(1, "HUP", some "Hangup"), (2, "INT", none), (3, "QUIT", some "Quit"),
    (6, "ABRT", some "Aborted"), (9, "KILL", some "Killed"),
    (10, "USR1", some "User defined signal 1"), (11, "SEGV", some "Segmentation fault"),
    (12, "USR2", some "User defined signal 2"), (13, "PIPE", none),
    (14, "ALRM", some "Alarm clock"), (15, "TERM", some "Terminated")]

def signalOf? (name : String) : Option Nat :=
  if name == "EXIT" then some 0
  else match Text.readNat? name.toList with
    | some n => some n
    | none => (signals.find? fun s => s.2.1 == name).map (·.1)

def signalText? (signal : Nat) : Option String := do
  let (_, _, text) ← signals.find? fun s => s.1 == signal
  text

/-- The signal that no program can hold off. -/
def killSignal : Nat := 9

def defaultSignal : Nat := 15

/-- The signal that is to be sent, and to which processes. -/
def killArguments : List String → Option Nat × List String
  | "-s" :: name :: targets => (signalOf? name, targets)
  | a :: targets =>
    match a.toList with
    | '-' :: name => (signalOf? (String.ofList name), targets)
    | _ => (some defaultSignal, a :: targets)
  | [] => (some defaultSignal, [])

/-- Do something on signals. -/
def trapCommand (arguments : List String) : Action Unit := do
  match arguments with
  | action :: names => do
    let numbers := names.filterMap signalOf?
    modify fun s =>
      let others := s.traps.filter fun t => !numbers.contains t.1
      let added := if action == "-" then [] else numbers.map fun n => (n, action.toList)
      { s with traps := added ++ others, status := 0 }
  | [] => setStatus 0

/-! ## All of them -/

/-- Wait for processes in the background, which have all ended. -/
def waitFor (arguments : List String) : Action Unit := do
  match arguments with
  | [] => setStatus 0
  | target :: _ =>
    let s ← get
    setStatus (if target == backgroundProcess then s.background.getD 127 else 127)

/-- A builtin that runs no other command; `none` for any other name. -/
def plainBuiltin? (name : String) (arguments : List String) : Option (Action Unit) :=
  match name with
  | ":" | "true" => some (setStatus 0)
  | "false" => some (setStatus 1)
  | "wait" => some (waitFor arguments)
  | "hash" | "times" | "jobs" => some (setStatus 0)
  | "echo" => some (printBytes (echoBytes arguments))
  | "printf" => some (printFormatted (Format.write arguments))
  | "pwd" => some do printLine (← get).files.cwd.text
  | "umask" => some (if arguments.isEmpty then printLine "0022" else setStatus 0)
  | "cd" => some (changeDir arguments)
  | "exit" => some do throw (.exit (← exitCode name arguments))
  | "return" => some do
    setStatus (← exitCode name arguments)
    throw .back
  | "export" => some (modify fun s => { arguments.foldl exportWord s with status := 0 })
  | "readonly" => some (modify fun s => { arguments.foldl setWord s with status := 0 })
  | "local" => some (makeLocal arguments)
  | "unset" => some (modify fun s => { (flags arguments).2.foldl unset s with status := 0 })
  | "read" => some (readCommand arguments)
  | "shift" => some (shift arguments)
  | "set" => some (modify fun s => { setCommand arguments s with status := 0 })
  | "trap" => some (trapCommand arguments)
  | "break" => some (leaveLoops name false arguments)
  | "continue" => some (leaveLoops name true arguments)
  | "test" => some do testCommand name (Condition.holds (← get).files arguments)
  | "[" => some do
    let t := (← get).files
    testCommand name ((bracketed arguments).bind (Condition.holds t))
  | _ => none

/-- Builtins that run other commands. -/
def runningBuiltins : List String := ["exec", "eval", "command", "type", "kill", "."]

def isBuiltin (name : String) : Bool :=
  (plainBuiltin? name []).isSome || runningBuiltins.contains name

end Shell
end Testbench
