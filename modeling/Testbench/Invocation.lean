import Testbench.Path
import Testbench.Text.Blank
import Testbench.Text.Output

/-!
# Invocation — running other programs

- `quote`                 : a word as one writes it in a shell;
- `Invocation`            : a program, its arguments and where it runs;
- `Invocation.shellCommand` : the line that names an invocation to a person;
- `Outcome`               : what a finished program left.
-/

namespace Testbench

/-- A word that holds a blank stands in double quotes. -/
def quote (word : String) : String :=
  if Text.hasBlank word then "\"" ++ word ++ "\"" else word

structure Invocation where
  program : String
  arguments : List String
  workingDir : Option Path
  deriving DecidableEq, Repr, Inhabited

namespace Invocation

/-- Run a program where the caller is. -/
def here (program : String) (arguments : List String) : Invocation :=
  ⟨program, arguments, none⟩

def shellCommand (i : Invocation) : String :=
  i.arguments.foldl (fun line word => line ++ " " ++ quote word) (quote i.program)

end Invocation

/-- Exit code, if the program was not killed, and what it printed. -/
structure Outcome where
  code : Option Int
  stdout : ByteArray
  stderr : ByteArray

namespace Outcome

def success (o : Outcome) : Bool := o.code == some 0

def stdoutText (o : Outcome) : String := Text.decodeOutput o.stdout

def stderrText (o : Outcome) : String := Text.decodeOutput o.stderr

end Outcome
end Testbench
