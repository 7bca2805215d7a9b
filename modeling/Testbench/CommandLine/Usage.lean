import Testbench.CommandLine.Arguments
import Testbench.HelperScript.Location

/-!
# Usage — how the tool is called

- `usageText`          : the commands with what they take;
- `UsageError.message` : what is wrong with arguments, in words.
-/

namespace Testbench
namespace CommandLine

def optional (s : String) : String := "[" ++ s ++ "]"

/-- A switch as it is written. -/
def Named.usage (n : Named) : String :=
  match n.short with
  | some c => "-" ++ c.toString ++ "|--" ++ n.long
  | none => "--" ++ n.long

def Positional.usage (p : Positional) : String :=
  if p.required then p.name.toUpper else optional p.name.toUpper

/-- A command with what it takes, on one line. -/
def Grammar.usage (g : Grammar) : String :=
  let named := g.switches.map fun s => optional s.usage
  let valued := g.valued.map fun o => optional (o.usage ++ " " ++ o.long.toUpper)
  " ".intercalate (g.name :: named ++ valued ++ g.positionals.map Positional.usage)

def usageText : String :=
  "Usage: " ++ tool.usage ++ " COMMAND\n\nCommands:\n"
    ++ String.join (commands.map fun c => "  " ++ c.usage ++ "\n")

def UsageError.message : UsageError → String
  | .help | .helpInstead => usageText
  | .version => tool.name ++ " " ++ HelperScripts.version ++ "\n"
  | .missingSubcommand => "error: a command is missing\n"
  | .missingArgument => "error: an argument is missing\n"
  | .unknownArgument => "error: unknown argument\n"
  | .invalidSubcommand => "error: unknown command\n"
  | .conflict => "error: arguments exclude each other\n"
  | .invalidValue => "error: invalid value\n"
  | .tooManyValues => "error: this argument takes no value\n"

end CommandLine
end Testbench
