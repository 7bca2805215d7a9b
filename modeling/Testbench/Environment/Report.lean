import Testbench.Environment.State
import Testbench.Error
import Testbench.Invocation
import Testbench.Json.Record

/-!
# Report — what the requirements script prints

The script prints one JSON record: whether the requirements are met, and why not.
-/

namespace Testbench
namespace Environment

open Json (Source)

structure Report where
  result : Bool
  error : Option String
  deriving DecidableEq, Repr, Inhabited

def Report.decode? {α : Type} (src : Source α) (x : α) : Option Report := do
  match ← src.slots? ["result", "error"] x with
  | [result, error] =>
    some {
      result := ← src.bool? (← result)
      error := ← Source.orDefault? (src.nullable? src.text?) none error }
  | _ => none

def Report.ofText? (s : String) : Option Report := do
  Report.decode? Source.draft (Json.maxLevels, ← Json.Draft.read? s)

/-- What a finished run of the script says; anything but a report of success is a no. -/
def statusOf : Except Error Outcome → RequirementsStatus
  | .error _ => .unsatisfied
  | .ok o => match Report.ofText? (Text.trim o.stdoutText) with
    | some report => if report.result then .satisfied else .unsatisfied
    | none => .unsatisfied

end Environment
end Testbench
