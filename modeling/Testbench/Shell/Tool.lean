import Testbench.Files
import Testbench.Shell.Format

/-!
# Tool — the programs that every system has

- `Ending`, `Finished` : how a program ends, and what it leaves;
- `toolAt?`   : the tool at a path;
- `runTool`   : what a tool does.
-/

namespace Testbench
namespace Shell

inductive Ending where
  | exited (code : Nat)
  | killed (signal : Nat)
  deriving DecidableEq, Repr, Inhabited

/-- The exit code, unless the program was killed. -/
def Ending.code? : Ending → Option Nat
  | .exited code => some code
  | .killed _ => none

/-- What a shell takes for the exit code. -/
def Ending.status : Ending → Nat
  | .exited code => code
  | .killed signal => 128 + signal

structure Finished where
  files : FileTree
  out : ByteArray
  err : ByteArray
  ending : Ending
  /-- What was not read of the input. -/
  input : ByteArray
  /-- Milliseconds slept. -/
  elapsed : Nat

def shellName : String := "sh"

def toolNames : List String :=
  [shellName, "cat", "touch", "mkdir", "rm", "ls", "cp", "mv", "chmod", "sleep", "echo", "printf",
    "true", "false", "pwd", "basename", "dirname", "head", "tail", "wc", "seq"]

def toolDirs : List Path := [⟨"/bin"⟩, ⟨"/usr/bin"⟩]

/-- The name of the tool at a path. -/
def toolAt? (t : FileTree) (p : Path) : Option String := do
  let p := (t.cwd.join p).fold
  let name ← p.fileName?
  let dir ← p.parent?
  if toolDirs.any dir.same && toolNames.contains name then some name else none

def said (t : FileTree) (out err : List UInt8) (code : Nat) : Finished :=
  ⟨t, ⟨out.toArray⟩, ⟨err.toArray⟩, .exited code, ByteArray.empty, 0⟩

/-- What a system calls a cause. -/
def causeText : FileError → String
  | .notFound => "No such file or directory"
  | .accessDenied => "Permission denied"
  | .exists => "File exists"
  | .notDirectory => "Not a directory"
  | .isDirectory => "Is a directory"
  | .nameTooLong => "File name too long"
  | .tooManyLinks => "Too many levels of symbolic links"
  | .badExecutable => "Exec format error"
  | .notText | .nulInPath => "Invalid argument"
  | .other text => text

def complaint (parts : List String) : List UInt8 := (String.join parts ++ "\n").toUTF8.toList

/-- Do something to each file and gather what is said about those where it fails. -/
def eachArgument (t : FileTree) (act : FileTree → Path → Except FileError FileTree)
    (blame : String → FileError → List UInt8) : List String → FileTree × List UInt8
  | [] => (t, [])
  | name :: rest =>
    match act t ⟨name⟩ with
    | .ok t => eachArgument t act blame rest
    | .error cause =>
      let (t, err) := eachArgument t act blame rest
      (t, blame name cause ++ err)

def finishEach (r : FileTree × List UInt8) : Finished :=
  said r.1 [] r.2 (if r.2.isEmpty then 0 else 1)

def isFlag (s : String) : Bool := s.length > 1 && s.toList.head? == some '-'

/-- The letters among the flags, and the other arguments. -/
def flags (arguments : List String) : List Char × List String :=
  ((arguments.filter isFlag).flatMap fun s => s.toList.drop 1,
    arguments.filter fun s => !isFlag s)

def touchFile (t : FileTree) (p : Path) : Except FileError FileTree :=
  if t.exists? p then .ok t else t.write p ByteArray.empty

/-- The contents of files one after the other; without files, what is read. -/
def cat (t : FileTree) (input : ByteArray) (names : List String) : Finished :=
  let pieces := (if names.isEmpty then ["-"] else names).map fun name =>
    if name == "-" then (input.toList, [])
    else match t.read ⟨name⟩ with
      | .ok bytes => (bytes.toList, [])
      | .error cause => ([], complaint ["cat: ", name, ": ", causeText cause])
  let err := pieces.flatMap (·.2)
  said t (pieces.flatMap (·.1)) err (if err.isEmpty then 0 else 1)

/-- What `ls` writes for one argument; names with a dot in front are left out unless `all` is
set. -/
def listed (t : FileTree) (all : Bool) (name : String) : List UInt8 × List UInt8 :=
  match t.list ⟨name⟩ with
  | .ok entries =>
    let names := entries.map (·.1)
    let shown := if all then "." :: ".." :: names
      else names.filter fun entry => entry.toList.head? != some '.'
    (shown.flatMap fun entry => bytesOf (entry.toList ++ ['\n']), [])
  | .error .notDirectory => (bytesOf (name.toList ++ ['\n']), [])
  | .error cause => ([], complaint ["ls: cannot access '", name, "': ", causeText cause])

def ls (t : FileTree) (letters : List Char) (names : List String) : Finished :=
  let pieces := (if names.isEmpty then ["."] else names).map (listed t (letters.contains 'a'))
  let err := pieces.flatMap (·.2)
  said t (pieces.flatMap (·.1)) err (if err.isEmpty then 0 else 2)

def mkdir (t : FileTree) (letters : List Char) (names : List String) : Finished :=
  let make (t : FileTree) (p : Path) : Except FileError FileTree :=
    if letters.contains 'p' then
      let (outcome, t) := (FileM.createDirs p).on t
      outcome.map fun _ => t
    else t.createDir p
  finishEach (eachArgument t make
    (fun name cause => complaint ["mkdir: cannot create directory '", name, "': ", causeText cause])
    names)

def rm (t : FileTree) (letters : List Char) (names : List String) : Finished :=
  let recursive := letters.contains 'r' || letters.contains 'R'
  let drop (t : FileTree) (p : Path) : Except FileError FileTree := do
    match t.statLink p with
    | .ok .dir => if recursive then t.remove p else .error .isDirectory
    | .ok _ => t.remove p
    | .error cause => if letters.contains 'f' then .ok t else .error cause
  finishEach (eachArgument t drop
    (fun name cause => complaint ["rm: cannot remove '", name, "': ", causeText cause]) names)

/-! ## Copies -/

/-- Where a file goes: into a directory under its own name, or to a place. -/
def destination (t : FileTree) (source target : String) : Path :=
  if t.isDir ⟨target⟩ then (Path.mk target).joinText (((Path.mk source).fileName?).getD source)
  else ⟨target⟩

def copyFile (t : FileTree) (source : String) (target : Path) : Except FileError FileTree := do
  let content ← t.read ⟨source⟩
  let isProgram := match t.stat ⟨source⟩ with
    | .ok (.file data) => data.executable
    | _ => false
  let t ← t.write target content
  if isProgram then t.setExecutable target else .ok t

def moveFile (t : FileTree) (source : String) (target : Path) : Except FileError FileTree := do
  let t ← copyFile t source target
  t.remove ⟨source⟩

/-- Copy or move files to the last argument. -/
def transfer (tool : String) (t : FileTree) (names : List String)
    (act : FileTree → String → Path → Except FileError FileTree) : Finished :=
  let target := names.getLast?.getD ""
  finishEach (eachArgument t (fun t p => act t p.text (destination t p.text target))
    (fun name cause => complaint [tool, ": cannot stat '", name, "': ", causeText cause])
    names.dropLast)

def chmod (t : FileTree) (arguments : List String) : Finished :=
  let mode := arguments.headD ""
  let makesProgram := mode.toList.contains 'x' || mode.toList.any fun c => "1357".contains c
  finishEach (eachArgument t
    (fun t p => if makesProgram then t.setExecutable p else do
      let _ ← t.stat p
      .ok t)
    (fun name cause => complaint ["chmod: cannot access '", name, "': ", causeText cause])
    (arguments.drop 1))

/-! ## Streams -/

/-- The lines of a content, each with its end. -/
def linesOf (bytes : List UInt8) : List (List UInt8) :=
  let (current, done) := bytes.foldl (fun (acc : List UInt8 × List (List UInt8)) b =>
    if b == newlineByte then ([], (newlineByte :: acc.1).reverse :: acc.2)
    else (b :: acc.1, acc.2)) ([], [])
  (if current.isEmpty then done else current.reverse :: done).reverse

/-- Which part of a content is asked for, and the names of files. -/
def portion : List String → (Char × Nat) × List String
  | option :: value :: rest =>
    match option.toList, Text.readNat? value.toList with
    | ['-', unit], some n =>
      if unit == 'n' || unit == 'c' then ((unit, n), rest) else (('n', 10), option :: value :: rest)
    | '-' :: digits, _ => match Text.readNat? digits with
      | some n => (('n', n), value :: rest)
      | none => (('n', 10), value :: rest)
    | _, _ => (('n', 10), option :: value :: rest)
  | [option] =>
    match option.toList with
    | '-' :: digits => (('n', (Text.readNat? digits).getD 10), [])
    | _ => (('n', 10), [option])
  | [] => (('n', 10), [])

/-- The first or the last lines or bytes of a content. -/
def excerpt (fromEnd : Bool) (part : Char × Nat) (bytes : List UInt8) : List UInt8 :=
  let pick {α : Type} (n : Nat) (xs : List α) : List α :=
    if fromEnd then xs.drop (xs.length - n) else xs.take n
  if part.1 == 'c' then pick part.2 bytes else (pick part.2 (linesOf bytes)).flatten

/-- The numbers that `wc` writes about a content. -/
def countsOf (letters : List Char) (bytes : List UInt8) : List Nat :=
  let isBlank (b : UInt8) : Bool := b == 32 || (9 ≤ b && b ≤ 13)
  let words := (bytes.foldl (fun (acc : Bool × Nat) b =>
    if isBlank b then (false, acc.2) else (true, if acc.1 then acc.2 else acc.2 + 1)) (false, 0)).2
  let all := [('l', bytes.count newlineByte), ('w', words), ('c', bytes.length)]
  (all.filter fun entry => letters.isEmpty || letters.contains entry.1).map (·.2)

def wc (t : FileTree) (input : ByteArray) (letters : List Char) (names : List String) : Finished :=
  let write (counts : List Nat) (width : Nat) (name : String) : List UInt8 :=
    let cells := counts.map fun (n : Nat) =>
      let digits := decimal n
      List.replicate (width - digits.length) ' ' ++ digits
    let line := [' '].intercalate cells
    bytesOf (line ++ (if name.isEmpty then [] else ' ' :: name.toList) ++ ['\n'])
  match names with
  | [] =>
    let counts := countsOf letters input.toList
    said t (write counts (if counts.length == 1 then 1 else 7) "") [] 0
  | names =>
    let pieces := names.map fun name => match t.read ⟨name⟩ with
      | .ok bytes =>
        let counts := countsOf letters bytes.toList
        (write counts ((counts.map fun (n : Nat) => (decimal n).length).foldl max 1) name, [])
      | .error cause => ([], complaint ["wc: ", name, ": ", causeText cause])
    let err := pieces.flatMap (·.2)
    said t (pieces.flatMap (·.1)) err (if err.isEmpty then 0 else 1)

/-- The excerpts of files, or of the input. -/
def excerpts (tool : String) (t : FileTree) (input : ByteArray) (arguments : List String) :
    Finished :=
  let (part, names) := portion arguments
  let pieces := (if names.isEmpty then ["-"] else names).map fun name =>
    if name == "-" then (excerpt (tool == "tail") part input.toList, [])
    else match t.read ⟨name⟩ with
      | .ok bytes => (excerpt (tool == "tail") part bytes.toList, [])
      | .error cause =>
        ([], complaint [tool, ": cannot open '", name, "' for reading: ", causeText cause])
  let err := pieces.flatMap (·.2)
  said t (pieces.flatMap (·.1)) err (if err.isEmpty then 0 else 1)

/-- Numbers in order, one per line. -/
def seq (t : FileTree) (arguments : List String) : Finished :=
  let numbers := arguments.map fun a => (Arithmetic.integer? a).getD 0
  let (first, step, last) : Int × Int × Int := match numbers with
    | [last] => (1, 1, last)
    | [first, last] => (first, 1, last)
    | [first, step, last] => (first, step, last)
    | _ => (1, 1, 0)
  let count := if step > 0 then ((last - first) / step + 1).toNat
    else if step < 0 then ((first - last) / (-step) + 1).toNat else 0
  let line (i : Nat) : List UInt8 := bytesOf (decimal (first + step * i) ++ ['\n'])
  said t ((List.range count).flatMap line) [] 0

/-- Milliseconds of a number of seconds. -/
def millisOf (s : String) : Nat :=
  let (whole, rest) := s.toList.span Char.isDigit
  let fraction := (rest.drop 1).takeWhile Char.isDigit
  Text.digitsValue 0 whole * 1000 + Text.digitsValue 0 ((fraction ++ ['0', '0', '0']).take 3)

/-! ## All tools -/

/-- What a tool that does not read the input does. -/
def runDeaf (t : FileTree) (name : String) (arguments : List String) : Finished :=
  let (letters, names) := flags arguments
  match name with
  | "touch" =>
    finishEach (eachArgument t touchFile
      (fun name cause => complaint ["touch: cannot touch '", name, "': ", causeText cause]) names)
  | "mkdir" => mkdir t letters names
  | "rm" => rm t letters names
  | "ls" => ls t letters names
  | "cp" => transfer name t names copyFile
  | "mv" => transfer name t names moveFile
  | "chmod" => chmod t arguments
  | "seq" => seq t arguments
  | "sleep" => { said t [] [] 0 with elapsed := arguments.foldl (fun n a => n + millisOf a) 0 }
  | "echo" => said t (echoBytes arguments) [] 0
  | "printf" => said t (Format.write arguments).bytes [] 0
  | "pwd" => said t (t.cwd.text ++ "\n").toUTF8.toList [] 0
  | "basename" =>
    let last := ((Path.mk (arguments.headD "")).fileName?).getD (arguments.headD "")
    let base := match arguments with
      | [_, ending] => ((Text.dropEnding? ending.toList last.toList).map String.ofList).getD last
      | _ => last
    said t (base ++ "\n").toUTF8.toList [] 0
  | "dirname" =>
    let dir := ((Path.mk (arguments.headD "")).parent?).getD ⟨"/"⟩
    said t ((if dir.isEmpty then "." else dir.text) ++ "\n").toUTF8.toList [] 0
  | "false" => said t [] [] 1
  | _ => said t [] [] 0

/-- What a tool other than the shell does. -/
def runTool (t : FileTree) (input : ByteArray) (name : String) (arguments : List String) :
    Finished :=
  let (letters, names) := flags arguments
  match name with
  | "cat" =>
    let f := cat t input names
    if names.isEmpty || names.contains "-" then f else { f with input := input }
  | "head" | "tail" => excerpts name t input arguments
  | "wc" => wc t input letters names
  | name => { runDeaf t name arguments with input := input }

end Shell
end Testbench
