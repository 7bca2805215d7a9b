import Testbench.Error
import Testbench.Shell.Run

/-!
# Live — running programs on the files themselves
-/

namespace Testbench

/-- Run an invocation to its end; tells how many milliseconds that takes. A program that cannot be
started is an error at once. -/
def Invocation.run (files : FileTree) (i : Invocation) : Except Error Outcome × Nat × FileTree :=
  match Shell.runProgram files i with
  | (.ok (outcome, millis), files) => (.ok outcome, millis, files)
  | (.error cause, files) => (.error (.tool i.shellCommand cause.message), 0, files)

end Testbench
