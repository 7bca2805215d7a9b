import Testbench.CommandLine.Grammar
import Testbench.Host.Dialog

/-!
# Arguments — the commands of the tool

- `Request`          : what is asked of the tool;
- `Arguments`        : a request, and the answer to give to all questions;
- `Arguments.parse`  : from the arguments on the command line.
-/

namespace Testbench
namespace CommandLine

inductive Request where
  | tree (file : Path) (docs json : Bool)
  | lenses (file : Path)
  | run (file : Path) (dryRun : Bool)
  | test (target : String) (className : Option String) (dryRun : Bool)
  | env (dir : Option Path) (dryRun : Bool)
  | install (dir : Option Path) (dryRun : Bool)
  | init (dir : Option Path) (force : Bool)
  | watch (dir : Option Path)
  deriving DecidableEq, Repr, Inhabited

structure Arguments where
  request : Request
  assumed : Option Host.Answer
  deriving DecidableEq, Repr, Inhabited

/-! ## Grammars -/

/-- Switches that give an answer to all questions; every command takes them. -/
def answerSwitches : List Named := [⟨"yes", some 'y'⟩, ⟨"no", none⟩, ⟨"never", none⟩]

def answerConflicts : List (String × String) := [("yes", "no"), ("yes", "never"), ("no", "never")]

def dryRunSwitch : Named := ⟨"dry-run", some 'd'⟩

def fileArgument : Positional := ⟨"file", true, true⟩

def dirArgument : Positional := ⟨"dir", false, true⟩

/-- A command with switches of its own and values by position. -/
def command (name : String) (aliases : List String) (switches : List Named)
    (positionals : List Positional) : Grammar :=
  ⟨name, aliases, switches ++ answerSwitches, [], positionals, answerConflicts⟩

def treeCommand : Grammar :=
  let g := command "tree" ["t"] [⟨"docs", none⟩, ⟨"json", none⟩] [fileArgument]
  { g with conflicts := ("json", "docs") :: g.conflicts }

def lensesCommand : Grammar := command "lenses" [] [] [fileArgument]

def runCommand : Grammar := command "run" ["r"] [dryRunSwitch] [fileArgument]

def testCommand : Grammar :=
  { command "test" [] [dryRunSwitch] [⟨"target", true, false⟩] with
    valued := [⟨"class", some 'c'⟩] }

def envCommand : Grammar := command "env" [] [dryRunSwitch] [dirArgument]

def installCommand : Grammar := command "install" [] [dryRunSwitch] [dirArgument]

def initCommand : Grammar := command "init" [] [⟨"force", some 'f'⟩] [dirArgument]

def watchCommand : Grammar := command "watch" [] [] [dirArgument]

def commands : List Grammar :=
  [treeCommand, lensesCommand, runCommand, testCommand, envCommand, installCommand, initCommand,
    watchCommand]

/-- Tells about the other commands. -/
def helpCommand : Grammar := command "help" [] [] []

def tool : Grammar := command "qta-runner" [] [] []

/-! ## Requests -/

def path? (m : Matches) (name : String) : Option Path := (m.value? name).map Path.mk

def requestOf? (g : Grammar) (m : Matches) : Option Request :=
  let file : Path := (path? m "file").getD ⟨""⟩
  let dir := path? m "dir"
  let dryRun := m.has dryRunSwitch.long
  match g.name with
  | "tree" => some (.tree file (m.has "docs") (m.has "json"))
  | "lenses" => some (.lenses file)
  | "run" => some (.run file dryRun)
  | "test" => some (.test ((m.value? "target").getD "") (m.value? "class") dryRun)
  | "env" => some (.env dir dryRun)
  | "install" => some (.install dir dryRun)
  | "init" => some (.init dir (m.has "force"))
  | "watch" => some (.watch dir)
  | _ => none

/-- The answer that switches before or after the name of the command give. -/
def assumed? (before after : Matches) : Option Host.Answer :=
  let given (name : String) : Bool := before.has name || after.has name
  if given "yes" then some .yes
  else if given "no" then some .no
  else if given "never" then some .suppress
  else none

/-- What asking for help on a command comes to: commands have no subcommands. -/
def helpOn : List String → UsageError
  | [] => .help
  | [name] =>
    if (helpCommand :: commands).any fun c => c.answersTo name then .help else .invalidSubcommand
  | _ => .invalidSubcommand

namespace Arguments

/-- The request that arguments make, or what is wrong with them. -/
def parse (arguments : List String) : Except UsageError Arguments := do
  match ← tool.scan (helpCommand :: commands) .none arguments with
  | (m, none) => .error (if m.switches.isEmpty then .helpInstead else .missingSubcommand)
  | (before, some (g, rest)) =>
    if g.name == helpCommand.name then .error (helpOn rest)
    else
      let (after, _) ← g.scan [] .none rest
      g.check after
      tool.check before
      match requestOf? g after with
      | some request => .ok ⟨request, assumed? before after⟩
      | none => .error .invalidSubcommand

end Arguments
end CommandLine
end Testbench
