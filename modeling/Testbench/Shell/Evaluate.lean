import Testbench.Shell.Builtin
import Testbench.Shell.Glob

/-!
# Evaluate — running commands and programs

The number in front of each function bounds how deep evaluation may go.

- `evaluate` : one command;
- `runText`  : a script;
- `spawn`    : a program;
- `runShell` : the shell as a program.
-/

namespace Testbench
namespace Shell

/-! ## Programs -/

abbrev Vars := List (String × String)

def defaultPath : String := "/usr/local/sbin:/usr/local/bin:/usr/sbin:/usr/bin:/sbin:/bin"

/-- Where a program may lie. -/
def programPlaces (vars : Vars) (name : String) : List Path :=
  if name.toList.contains '/' then [⟨name⟩]
  else match vars.find? fun v => v.1 == "PATH" with
    | some (_, search) =>
      if name.isEmpty then []
      else (Text.splitOn ':' search.toList).map fun dir => (Path.ofChars dir).joinText name
    | none => []

/-- The program that a script's first line names, with its argument. -/
def interpreterLine? (content : ByteArray) : Option (String × Option String) :=
  match content.toList with
  | 35 :: 33 :: rest =>
    let line := rest.takeWhile (· != newlineByte)
    let text := ((String.fromUTF8? ⟨line.toArray⟩).getD "").toList.dropWhile isSpace
    let (program, rest) := text.span fun c => !isSpace c
    let argument := ((rest.dropWhile isSpace).reverse.dropWhile isSpace).reverse
    if program.isEmpty then none
    else some (String.ofList program,
      if argument.isEmpty then none else some (String.ofList argument))
  | _ => none

/-- What the letters in front of a shell's arguments ask for, and the arguments after them. -/
def shellOptions : List String → List Char × List String
  | [] => ([], [])
  | a :: rest =>
    if a == "--" then ([], rest)
    else if isFlag a then
      let (letters, rest) := shellOptions rest
      (a.toList.drop 1 ++ letters, rest)
    else ([], a :: rest)

def openText : FileError → String
  | .notFound => "No such file"
  | cause => causeText cause

def createText : FileError → String
  | .notFound => "Directory nonexistent"
  | cause => causeText cause

/-- A shell that starts. -/
def startState (files : FileTree) (vars : Vars) (options : List Char) (input : ByteArray)
    (name : String) (parameters : List String) : State where
  files := files
  bindings := (vars.filter fun v => v.1 != "PWD").map (fun v => ⟨v.1, v.2, true⟩)
    ++ [⟨"PWD", files.cwd.text, true⟩]
  functions := []
  hidden := []
  options := options
  traps := []
  streams := [(1, .out), (2, .err)]
  input := input
  elapsed := 0
  name := name
  label := ""
  parameters := parameters
  status := 0
  background := none
  substituted := none
  line := 0
  tested := false
  loops := 0
  out := ByteArray.empty
  err := ByteArray.empty
  captures := #[]

/-- How a shell ends. -/
def finished (outcome : Except Stop Unit) (s : State) : Finished :=
  let ending : Ending := match outcome with
    | .ok () => .exited s.status
    | .error (.killed signal) => .killed signal
    | .error stop => .exited (codeOf stop s)
  ⟨s.files, s.out, s.err, ending, s.input, s.elapsed⟩

/-- Where a name leads: to itself for a builtin or a function, or to a program. -/
def whereIs? (s : State) (name : String) : Option String :=
  if isBuiltin name || (function? s name).isSome then some name
  else ((programPlaces (environment s) name).find? fun p =>
    (toolAt? s.files p).isSome || s.files.isFile p).map (·.text)

/-- What kind of command a name stands for. -/
def kindOf? (s : State) (name : String) : Option String :=
  if reserved.contains name then some "a shell keyword"
  else if specialBuiltins.contains name then some "a special shell builtin"
  else if (function? s name).isSome then some "a shell function"
  else if isBuiltin name then some "a shell builtin"
  else whereIs? s name

/-- Tell of each name what it stands for. -/
def typeCommand : List String → Action Unit
  | [] => pure ()
  | name :: rest => do
    match kindOf? (← get) name with
    | some kind => printLine (name ++ " is " ++ kind)
    | none => do
      printLine (name ++ ": not found")
      setStatus 127
    typeCommand rest

/-! ## Changed values -/

/-- The shortest or the longest start of a text that a pattern describes is cut off. -/
def cutStart (longest : Bool) (p : Pattern) (cs : List Char) : List Char :=
  let lengths := (List.range (cs.length + 1)).filter fun n => p.matches (cs.take n)
  match if longest then lengths.getLast? else lengths.head? with
  | some n => cs.drop n
  | none => cs

def cutEnd (longest : Bool) (p : Pattern) (cs : List Char) : List Char :=
  let starts := (List.range (cs.length + 1)).filter fun n => p.matches (cs.drop n)
  match if longest then starts.head? else starts.getLast? with
  | some n => cs.take n
  | none => cs

/-- Whether a value counts as missing. -/
def isMissing (empty : Bool) : Option String → Bool
  | none => true
  | some s => empty && s.isEmpty

/-- A value that has to be set, if the option for that is on. -/
def demand (s : State) (name : String) : Action Unit := do
  if isOn s 'u' && (value? s name).isNone && name != "@" && name != "*" then
    giveUp (name ++ ": parameter not set")

/-- Write what is run, if the option for that is on. -/
def trace (assigned : List (String × String)) (words : List String) : Action Unit := do
  let assignments := assigned.map fun a => a.1 ++ "=" ++ a.2
  if isOn (← get) 'x' then emit 2 (" ".intercalate ("+" :: assignments ++ words) ++ "\n").toUTF8

/-! ## Evaluation -/

mutual

/-- Put in what names, commands and sums stand for. -/
def expandWord : Nat → Fields → Word → Action Fields
  | 0, f, _ => pure f
  | _, f, [] => pure f
  | n + 1, f, .text true cs :: rest => expandWord n (f.addQuoted cs) rest
  | n + 1, f, .text false cs :: rest => expandWord n (f.add (cs.map fun c => (c, false))) rest
  | n + 1, f, .loose cs :: rest => expandWord n (f.addSplit cs) rest
  | n + 1, f, .parameter quoted name change :: rest => do
    expandWord n (← expandChange n f quoted name change) rest
  | n + 1, f, .command quoted source :: rest => do
    let before := (← get).status
    let bytes ← capture (withFarewell (runText n) (runText n source))
    modify fun s => { s with substituted := some s.status, status := before }
    let text := (String.fromUTF8? bytes).getD ""
    let trimmed := (text.toList.reverse.dropWhile (· == '\n')).reverse
    expandWord n (f.addText quoted trimmed) rest
  | n + 1, f, .arithmetic quoted source :: rest => do
    let p ← expandOne n (quotedWordOf .plain source)
    let s ← get
    match Arithmetic.compute (valueOf s) (p.map (·.1)) with
    | .error text => giveUp text
    | .ok (i, set) => do
      modify fun s => set.reverse.foldl (fun s b => assign s b.1 (String.ofList (decimal b.2))) s
      expandWord n (f.addText quoted (decimal i)) rest

/-- Put in the value of a name, changed as braces tell. -/
def expandChange : Nat → Fields → Bool → String → Change → Action Fields
  | 0, f, _, _, _ => pure f
  | n + 1, f, quoted, name, change => do
    let s ← get
    let value := value? s name
    let operand (source : List Char) : Word :=
      if quoted then quotedWordOf .dropped source else looseWordOf source
    match change with
    | .value => do
      demand s name
      pure (f.addValue s quoted name)
    | .length => do
      demand s name
      pure (f.addText quoted (decimal (value.getD "").utf8ByteSize))
    | .otherwise empty source =>
      if isMissing empty value then expandWord n f (operand source)
      else pure (f.addValue s quoted name)
    | .instead empty source =>
      if isMissing empty value then pure (if quoted then f.addQuoted [] else f)
      else expandWord n f (operand source)
    | .assign empty source =>
      if isMissing empty value then do
        let p ← expandOne n (operand source)
        let text := p.map (·.1)
        modify fun s => assign s name (String.ofList text)
        pure (f.addText quoted text)
      else pure (f.addValue s quoted name)
    | .require empty source =>
      if isMissing empty value then do
        let p ← expandOne n (operand source)
        let text := String.ofList (p.map (·.1))
        giveUp (name ++ ": " ++ if !text.isEmpty then text
          else if empty then "parameter not set or null" else "parameter not set")
      else pure (f.addValue s quoted name)
    | .cutStart longest source => do
      let p ← expandOne n (wordOf source)
      pure (f.addText quoted (cutStart longest p (value.getD "").toList))
    | .cutEnd longest source => do
      let p ← expandOne n (wordOf source)
      pure (f.addText quoted (cutEnd longest p (value.getD "").toList))
    | .malformed => giveUp "Bad substitution"

/-- The fields of words. -/
def expandWords : Nat → List Word → Action (List String)
  | 0, _ => pure []
  | _, [] => pure []
  | n + 1, w :: rest => do
    let f ← expandWord n (.split (separators (← get))) w
    let files := (← get).files
    let others ← expandWords n rest
    pure (f.toList.flatMap (Glob.expand files) ++ others)

/-- A word as one pattern. -/
def expandOne : Nat → Word → Action Pattern
  | 0, _ => pure []
  | n + 1, w => do pure (← expandWord n .whole w).joined

def expandAssignments : Nat → List (String × Word) → Action (List (String × String))
  | 0, _ => pure []
  | _, [] => pure []
  | n + 1, (name, w) :: rest => do
    let p ← expandOne n w
    let others ← expandAssignments n rest
    pure ((name, String.ofList (p.map (·.1))) :: others)

/-- Open what redirections name: the streams, and an input if there is one; `none` if that fails. -/
def redirect : Nat → Streams → Option ByteArray → List Redirect →
    Action (Option (Streams × Option ByteArray))
  | 0, streams, input, _ => pure (some (streams, input))
  | _, streams, input, [] => pure (some (streams, input))
  | n + 1, streams, _, .here body :: rest => do
    let p ← expandOne n body
    redirect n streams (some (String.ofList (p.map (·.1))).toUTF8) rest
  | n + 1, streams, input, .toFile descriptor append target :: rest => do
    let p ← expandOne n target
    let name := String.ofList (p.map (·.1))
    let s ← get
    let place := s.files.cwd.joinText name
    let opened : Except FileError (Sink × FileTree) :=
      if name == "/dev/null" then .ok (.nowhere, s.files)
      else if name == "/dev/stderr" then .ok ((streams.sink? 2).getD .nowhere, s.files)
      else if name == "/dev/stdout" then .ok ((streams.sink? 1).getD .nowhere, s.files)
      else
        let before := if append then ((s.files.read place).toOption).getD ByteArray.empty
          else ByteArray.empty
        (s.files.write place before).map fun files => (.file place, files)
    match opened with
    | .ok (sink, files) => do
      set { s with files := files }
      redirect n (streams.put descriptor sink) input rest
    | .error cause => do
      report ("cannot create " ++ name ++ ": " ++ createText cause)
      pure none
  | n + 1, streams, _, .fromFile source :: rest => do
    let p ← expandOne n source
    let name := String.ofList (p.map (·.1))
    if name == "/dev/null" then redirect n streams (some ByteArray.empty) rest
    else match (← get).files.read ⟨name⟩ with
      | .ok bytes => redirect n streams (some bytes) rest
      | .error cause => do
        report ("cannot open " ++ name ++ ": " ++ openText cause)
        pure none
  | n + 1, streams, input, .copy descriptor source :: rest => do
    let p ← expandOne n source
    let cs := p.map (·.1)
    if cs == ['-'] then redirect n (streams.close descriptor) input rest
    else match (Text.readNat? cs).bind streams.sink? with
      | some sink => redirect n (streams.put descriptor sink) input rest
      | none => do
        report (String.ofList cs ++ ": Bad file descriptor")
        pure none
  | n + 1, streams, input, .copyInput _ :: rest => redirect n streams input rest

/-- Run words with assignments that hold for them only. -/
def runWords : Nat → List (String × String) → String → List String → Action Unit
  | 0, _, _, _ => setStatus 1
  | n + 1, assigned, name, arguments => do
    if specialBuiltins.contains name then do
      modify fun s => assigned.foldl (fun s a => assign s a.1 a.2) s
      runBuiltin n name arguments
    else if let some body := function? (← get) name then
      lending assigned (inFunction arguments (evaluate n body))
    else if isBuiltin name then lending assigned (runBuiltin n name arguments)
    else runExternal n assigned name arguments

def runBuiltin : Nat → String → List String → Action Unit
  | 0, _, _ => setStatus 1
  | n + 1, name, arguments => do
    match plainBuiltin? name arguments with
    | some action => action
    | none => match name, arguments with
      | "exec", program :: rest => do
        labelled name (runExternal n [] program rest)
        throw (.exit (← get).status)
      | "eval", words => labelled name (runText n (" ".intercalate words).toList)
      | "command", "-v" :: sought :: _ => do
        match whereIs? (← get) sought with
        | some found => printLine found
        | none => setStatus 127
      | "command", program :: rest =>
        if isBuiltin program then runBuiltin n program rest else runExternal n [] program rest
      | "type", names => do
        setStatus 0
        typeCommand names
      | ".", file :: _ => do
        match (← get).files.read ⟨file⟩ with
        | .ok bytes =>
          untilBack (labelled file (runText n ((String.fromUTF8? bytes).getD "").toList))
        | .error _ => fault name ("cannot open " ++ file ++ ": No such file")
      | "kill", arguments => sendSignal n arguments
      | _, _ => setStatus 0

/-- Send a signal; only the shell's own process can be reached. -/
def sendSignal : Nat → List String → Action Unit
  | 0, _ => setStatus 1
  | n + 1, arguments => do
    match killArguments arguments with
    | (some signal, targets) =>
      if !targets.contains ownProcess then do
        complain "kill: No such process\n"
        setStatus 1
      else if signal == 0 then setStatus 0
      else match (← get).traps.find? fun t => t.1 == signal && signal != killSignal with
        | some (_, text) => do
          runText n text
          setStatus 0
        | none => throw (.killed signal)
    | (none, _) =>
      fault "kill" ("Illegal option " ++ String.ofList ((arguments.headD "").toList.take 2))

/-- Run a program, and say so if a signal ended it. -/
def runExternal : Nat → List (String × String) → String → List String → Action Unit
  | 0, _, _, _ => setStatus 1
  | n + 1, assigned, name, arguments => do
    let s ← get
    match spawn n s.files (assigned ++ environment s) true name arguments s.input with
    | .ok f => do
      set { s with
        files := { f.files with cwd := s.files.cwd }, input := f.input
        elapsed := s.elapsed + f.elapsed, status := f.ending.status }
      emit 1 f.out
      emit 2 f.err
      match f.ending with
      | .killed signal => match signalText? signal with
        | some text => emit 2 (text ++ "\n").toUTF8
        | none => pure ()
      | .exited _ => pure ()
    | .error cause => do
      let missing := cause == .notFound || cause == .notDirectory
      report (name ++ ": " ++ if name.isEmpty then "Permission denied"
        else if missing then "not found" else causeText cause)
      setStatus (if missing then 127 else 126)

def runSimple : Nat → Simple → Action Unit
  | 0, _ => setStatus 1
  | n + 1, c => do
    modify fun s => { s with line := c.line, substituted := none }
    let fields ← expandWords n c.words
    let assigned ← expandAssignments n c.assignments
    trace assigned fields
    match ← redirect n (← get).streams none c.redirects with
    | none => if specialBuiltins.contains (fields.headD "") then throw (.exit 2) else setStatus 2
    | some (streams, input) => match fields with
      | [] => modify fun s => { assigned.foldl (fun s a => assign s a.1 a.2) s with
          status := s.substituted.getD 0 }
      | ["exec"] => modify fun s => { s with
          streams := streams, input := input.getD s.input, status := 0 }
      | name :: arguments =>
        withStreams streams (withInput input (runWords n assigned name arguments))
    leaveOnFailure

/-- Run one command. -/
def evaluate : Nat → Command → Action Unit
  | 0, _ => setStatus 1
  | _ + 1, .skip => pure ()
  | n + 1, .simple c => runSimple n c
  | n + 1, .negate c => do
    whileTested (evaluate n c)
    setStatus (if (← get).status == 0 then 1 else 0)
  | n + 1, .pipe left right => do
    let bytes ← capture (evaluate n left)
    withInput (some bytes) (inSubshell (evaluate n right))
    leaveOnFailure
  | n + 1, .andThen left right => do
    whileTested (evaluate n left)
    if (← get).status == 0 then evaluate n right
  | n + 1, .orElse left right => do
    whileTested (evaluate n left)
    if (← get).status != 0 then evaluate n right
  | n + 1, .sequence first second => do
    evaluate n first
    evaluate n second
  | n + 1, .redirected line c rs => do
    modify fun s => { s with line := line }
    match ← redirect n (← get).streams none rs with
    | none => setStatus 2
    | some (streams, input) => withStreams streams (withInput input (evaluate n c))
  | n + 1, .subshell c => do
    inSubshell (withFarewell (runText n) (evaluate n c))
    leaveOnFailure
  | n + 1, .background c => do
    withInput (some ByteArray.empty) (inSubshell (withFarewell (runText n) (evaluate n c)))
    modify fun s => { s with background := some s.status, status := 0 }
  | _ + 1, .define name body =>
    modify fun s => { s with functions := (name, body) :: s.functions, status := 0 }
  | n + 1, .branch condition yes no => do
    whileTested (evaluate n condition)
    let holds := (← get).status == 0
    setStatus 0
    evaluate n (if holds then yes else no)
  | n + 1, .loop stopsOnSuccess condition body => evaluateLoop n stopsOnSuccess condition body 0
  | n + 1, .each name words body => do
    let values ← match words with
      | some words => expandWords n words
      | none => do pure (← get).parameters
    setStatus 0
    evaluateEach n name body values
  | n + 1, .choose subject arms => do
    let p ← expandOne n subject
    setStatus 0
    evaluateArms n (p.map (·.1)) arms

/-- Go on with a loop whose last round had an exit code. -/
def evaluateLoop : Nat → Bool → Command → Command → Nat → Action Unit
  | 0, _, _, _, _ => setStatus 1
  | n + 1, stopsOnSuccess, condition, body, code => do
    whileTested (evaluate n condition)
    if ((← get).status == 0) == stopsOnSuccess then setStatus code
    else do
      let left ← inLoop (evaluate n body)
      if left then setStatus 0
      else evaluateLoop n stopsOnSuccess condition body (← get).status

def evaluateEach : Nat → String → Command → List String → Action Unit
  | 0, _, _, _ => setStatus 1
  | _, _, _, [] => pure ()
  | n + 1, name, body, value :: rest => do
    modify fun s => assign s name value
    let left ← inLoop (evaluate n body)
    if left then setStatus 0 else evaluateEach n name body rest

/-- Run the first arm with a pattern that describes the subject. -/
def evaluateArms : Nat → List Char → List (List Word × Command) → Action Unit
  | 0, _, _ => setStatus 1
  | _, _, [] => pure ()
  | n + 1, subject, (ps, body) :: rest => do
    if ← anyMatches n subject ps then evaluate n body
    else evaluateArms n subject rest

def anyMatches : Nat → List Char → List Word → Action Bool
  | 0, _, _ => pure false
  | _, _, [] => pure false
  | n + 1, subject, w :: rest => do
    let p ← expandOne n w
    if p.matches subject then pure true else anyMatches n subject rest

/-- Run the commands of tokens, line by line. -/
def runTokens : Nat → Tokens → Action Unit
  | 0, _ => setStatus 1
  | n + 1, ts => do
    match next? ts with
    | .error e => do
      modify fun s => { s with line := e.line }
      report ("Syntax error: " ++ e.message)
      throw (.exit 2)
    | .ok none => pure ()
    | .ok (some (c, rest)) => do
      if !isOn (← get) 'n' then evaluate n c
      runTokens n rest

/-- Run a script. -/
def runText : Nat → List Char → Action Unit
  | 0, _ => setStatus 1
  | n + 1, cs => runTokens n (tokenize cs)

/-- Run the file of a program. A shell takes a file without a first line that names a program for a
script of its own. -/
def runFile : Nat → FileTree → Vars → Bool → Path → String → List String → ByteArray →
    Except FileError Finished
  | 0, _, _, _, _, _, _, _ => .error .badExecutable
  | n + 1, t, vars, byShell, p, name, arguments, input =>
    match toolAt? t p with
    | some tool =>
      if tool == shellName then .ok (runShell n t vars name arguments input)
      else .ok (runTool t input tool arguments)
    | none => match t.stat p with
      | .error cause => .error cause
      | .ok (.file data) =>
        if !data.executable then .error .accessDenied
        else match interpreterLine? data.content with
          | some (program, argument) =>
            runFile n t vars false ⟨program⟩ program (argument.toList ++ p.text :: arguments) input
          | none =>
            if byShell then .ok (runShell n t vars name (p.text :: arguments) input)
            else .error .badExecutable
      | .ok _ => .error .accessDenied

/-- Run the first program of a name that there is. -/
def spawnFirst : Nat → FileTree → Vars → Bool → String → List String → ByteArray → List Path →
    FileError → Except FileError Finished
  | 0, _, _, _, _, _, _, _, cause => .error cause
  | _, _, _, _, _, _, _, [], cause => .error cause
  | n + 1, t, vars, byShell, name, arguments, input, p :: rest, cause =>
    match runFile n t vars byShell p name arguments input with
    | .ok f => .ok f
    | .error .notFound => spawnFirst n t vars byShell name arguments input rest cause
    | .error .notDirectory =>
      spawnFirst n t vars byShell name arguments input rest
        (if name.toList.contains '/' then .notDirectory else cause)
    | .error .accessDenied =>
      spawnFirst n t vars byShell name arguments input rest .accessDenied
    | .error other => .error other

def spawn : Nat → FileTree → Vars → Bool → String → List String → ByteArray →
    Except FileError Finished
  | 0, _, _, _, _, _, _ => .error .notFound
  | n + 1, t, vars, byShell, name, arguments, input =>
    spawnFirst n t vars byShell name arguments input (programPlaces vars name) .notFound

/-- The shell as a program. -/
def runShell : Nat → FileTree → Vars → String → List String → ByteArray → Finished
  | 0, t, _, _, _, _ => said t [] [] 1
  | n + 1, t, vars, name, arguments, input =>
    let (letters, rest) := shellOptions arguments
    let failed (text : String) : Finished := said t [] (complaint [name, ": 0: ", text]) 2
    let start (input : ByteArray) (name : String) (parameters : List String) (text : List Char) :
        Finished :=
      let s := startState t vars (letters.filter (· != 'c')) input name parameters
      let (outcome, s) := (withFarewell (runText n) (runText n text)).run s
      finished outcome s
    let textOf (bytes : ByteArray) : List Char := ((String.fromUTF8? bytes).getD "").toList
    if letters.contains 'c' then
      match rest with
      | [] => failed "-c requires an argument"
      | text :: rest => start input (rest.headD name) rest.tail text.toList
    else match rest with
      | [] => start ByteArray.empty name [] (textOf input)
      | file :: rest => match t.read ⟨file⟩ with
        | .error cause => failed ("cannot open " ++ file ++ ": " ++ openText cause)
        | .ok bytes => start input file rest (textOf bytes)

end

end Shell
end Testbench
