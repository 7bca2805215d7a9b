import Testbench.Error

/-!
# Failure — why a command stopped

- `Failure`      : reasons, the outermost one first;
- `Failure.text` : the reasons in one line.
-/

namespace Testbench
namespace CommandLine

structure Failure where
  reasons : List String
  deriving DecidableEq, Repr, Inhabited

namespace Failure

def because (reason : String) : Failure := ⟨[reason]⟩

/-- The reasons of an error. A cause in the file system is a reason of its own, too. -/
def ofError : Error → Failure
  | .file cause => ⟨[(Error.file cause).message, cause.message]⟩
  | cause => because cause.message

/-- What was being done comes first. -/
def during (activity : String) (f : Failure) : Failure := ⟨activity :: f.reasons⟩

def text (f : Failure) : String := ": ".intercalate f.reasons

end Failure
end CommandLine
end Testbench
