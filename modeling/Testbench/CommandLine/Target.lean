import Testbench.Text.Split
import Testbench.Text.Digit

/-!
# Target — a file and a line in it, as one argument

- `splitLine` : the parts of `FILE:LINE`. What is no such pair is the name of a file as a whole.
-/

namespace Testbench
namespace CommandLine

/-- File and line of an argument. The file is not empty and the line is positive and below 2³². -/
def splitLine (argument : String) : String × Option Nat :=
  match Text.splitLast? ':' argument.toList with
  | some (file, line) =>
    match Text.readCount? Text.lineBound line with
    | some n => if n > 0 && !file.isEmpty then (String.ofList file, some n) else (argument, none)
    | none => (argument, none)
  | none => (argument, none)

end CommandLine
end Testbench
