import Testbench.Text.Split

/-!
# Grammar — reading the arguments of a command

A command takes switches, options with a value, and values by position. Its help and its version can
always be asked for. After `--` there are only values by position.

- `Grammar`     : what a command takes;
- `UsageError`  : why arguments are not read to the end;
- `Grammar.scan` : the arguments up to the name of a subcommand;
- `Grammar.check` : what has to hold of all arguments together.
-/

namespace Testbench
namespace CommandLine

/-- The names of a switch, or of an option with a value. -/
structure Named where
  long : String
  short : Option Char
  deriving DecidableEq, Repr, Inhabited

structure Positional where
  name : String
  required : Bool
  /-- Whether the empty text is refused. -/
  filled : Bool
  deriving DecidableEq, Repr, Inhabited

structure Grammar where
  name : String
  aliases : List String
  switches : List Named
  valued : List Named
  positionals : List Positional
  /-- Pairs of switches that exclude each other. -/
  conflicts : List (String × String)
  deriving Repr, Inhabited

inductive UsageError where
  | help
  | version
  /-- There are no arguments, but a subcommand is needed. -/
  | helpInstead
  | missingSubcommand
  | missingArgument
  | unknownArgument
  | invalidSubcommand
  | conflict
  | invalidValue
  | tooManyValues
  deriving DecidableEq, Repr, Inhabited

/-- Asking for help or for the version is no mistake. -/
def UsageError.exitCode : UsageError → Nat
  | .help | .version => 0
  | _ => 2

/-- An argument whose value has not been taken in, or not even read. -/
structure Pending where
  name : String
  filled : Bool
  value : Option String
  deriving DecidableEq, Repr, Inhabited

/-- What was read so far. -/
structure Matches where
  switches : List String
  values : List (String × String)
  pending : Option Pending
  /-- Whether `--` was read. -/
  trailing : Bool
  /-- How many values by position were read. -/
  position : Nat
  deriving Repr, Inhabited

namespace Matches

def none : Matches := ⟨[], [], .none, false, 0⟩

def has (m : Matches) (switch : String) : Bool := m.switches.contains switch

def value? (m : Matches) (name : String) : Option String :=
  (m.values.find? fun v => v.1 == name).map (·.2)

/-- Take in the pending argument. No argument may come twice. -/
def settle (m : Matches) : Except UsageError Matches :=
  match m.pending with
  | .none => .ok m
  | some p => match p.value with
    | .none => .error .invalidValue
    | some v =>
      if (m.value? p.name).isSome then .error .conflict
      else if p.filled && v.isEmpty then .error .invalidValue
      else .ok { m with values := m.values ++ [(p.name, v)], pending := .none }

/-- Whether the next argument is the value of an option. -/
def awaits (m : Matches) : Bool :=
  match m.pending with
  | some p => p.value.isNone
  | .none => false

end Matches

namespace Grammar

def helpSwitch : Named := ⟨"help", some 'h'⟩

def versionSwitch : Named := ⟨"version", some 'V'⟩

/-- Read a switch. -/
def flip (s : Named) (m : Matches) : Except UsageError Matches := do
  let m ← m.settle
  if s == helpSwitch then .error .help
  else if s == versionSwitch then .error .version
  else if m.has s.long then .error .conflict
  else .ok { m with switches := m.switches ++ [s.long] }

/-- Read the name of an option, with its value if that is attached. -/
def openOption (o : Named) (attached : Option String) (m : Matches) :
    Except UsageError Matches := do
  let m ← m.settle
  let m := { m with pending := some ⟨o.long, false, attached⟩ }
  match attached with
  | some _ => m.settle
  | none => .ok m

def allSwitches (g : Grammar) : List Named := g.switches ++ [helpSwitch, versionSwitch]

/-- Read an argument with a long name. -/
def long (g : Grammar) (name : String) (attached : Option String) (m : Matches) :
    Except UsageError Matches :=
  match g.valued.find? fun o => o.long == name with
  | some o => openOption o attached m
  | none => match g.allSwitches.find? fun s => s.long == name with
    | some s => if attached.isSome then .error .tooManyValues else flip s m
    | none => .error .unknownArgument

/-- Read short names in one argument. What follows the name of an option is its value. -/
def short (g : Grammar) : List Char → Matches → Except UsageError Matches
  | [], m => .ok m
  | c :: rest, m =>
    match g.valued.find? fun o => o.short == some c with
    | some o =>
      let attached := match rest with
        | [] => none
        | '=' :: value => some (String.ofList value)
        | value => some (String.ofList value)
      openOption o attached m
    | none => match g.allSwitches.find? fun s => s.short == some c with
      | some s => do
        let m ← flip s m
        short g rest m
      | none => .error .unknownArgument

/-- Read a value by position. -/
def place (g : Grammar) (value : String) (m : Matches) : Except UsageError Matches := do
  match g.positionals[m.position]? with
  | some p =>
    let m ← m.settle
    .ok { m with pending := some ⟨p.name, p.filled, some value⟩, position := m.position + 1 }
  | none => .error .unknownArgument

/-- What an argument looks like. -/
inductive Shape where
  | escape
  | long (name : String) (attached : Option String)
  | short (names : List Char)
  | plain

def shapeOf (argument : String) : Shape :=
  match argument.toList with
  | ['-', '-'] => .escape
  | '-' :: '-' :: rest => match Text.splitFirst? '=' rest with
    | some (name, value) => .long (String.ofList name) (some (String.ofList value))
    | none => .long (String.ofList rest) none
  | '-' :: c :: rest => .short (c :: rest)
  | _ => .plain

def answersTo (g : Grammar) (name : String) : Bool := g.name == name || g.aliases.contains name

/-- Read one argument that names no subcommand. -/
def read (g : Grammar) (argument : String) (m : Matches) : Except UsageError Matches :=
  if m.trailing then g.place argument m
  else match shapeOf argument with
    | .escape => .ok { m with trailing := true }
    | .long name attached => g.long name attached m
    | .short names => g.short names m
    | .plain => match m.pending with
      | some p =>
        if m.awaits then .ok { m with pending := some { p with value := some argument } }
        else g.place argument m
      | none => g.place argument m

/-- Read arguments up to the name of a subcommand; tells what follows it. -/
def scan (g : Grammar) (commands : List Grammar) : Matches → List String →
    Except UsageError (Matches × Option (Grammar × List String))
  | m, [] => do .ok (← m.settle, none)
  | m, argument :: rest =>
    match commands.find? fun c => !m.trailing && c.answersTo argument with
    | some c => .ok (m, some (c, rest))
    | none =>
      let placed := m.trailing || match shapeOf argument with
        | .plain => !m.awaits
        | _ => false
      if placed && !commands.isEmpty then
        .error (if m.trailing && commands.any fun c => c.answersTo argument then .unknownArgument
          else .invalidSubcommand)
      else match g.read argument m with
        | .ok m => scan g commands m rest
        | .error e => .error e

/-- Switches that exclude each other are not given together, and what is required is given. -/
def check (g : Grammar) (m : Matches) : Except UsageError Unit :=
  if g.conflicts.any fun c => m.has c.1 && m.has c.2 then .error .conflict
  else if g.positionals.any fun p => p.required && (m.value? p.name).isNone then
    .error .missingArgument
  else .ok ()

end Grammar
end CommandLine
end Testbench
