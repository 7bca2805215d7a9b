import Testbench.CommandLine.Arguments
import Testbench.CommandLine.Launch
import Testbench.CommandLine.Printout
import Testbench.CommandLine.Target
import Testbench.CommandLine.Upkeep

/-!
# Execute — a request from beginning to end

- `Request.path`, `Request.mode` : where a request works, and whether its lines are run;
- `Request.carryOut`             : its work in an open session;
- `Finished`, `execute`          : what the request comes to.
-/

namespace Testbench
namespace CommandLine

open Host (TerminalMode Printed)

namespace Request

/-- The directory that is meant if none is named. -/
def hereDir : Path := ⟨"."⟩

def path : Request → Path
  | .tree file .. | .lenses file | .run file _ => file
  | .test target .. => ⟨(splitLine target).1⟩
  | .env dir _ | .install dir _ | .init dir _ | .watch dir => dir.getD hereDir

/-- Listings start no shell. -/
def mode : Request → TerminalMode
  | .tree .. | .lenses _ | .init .. => .echo
  | .run _ dryRun | .test _ _ dryRun | .env _ dryRun | .install _ dryRun =>
    if dryRun then .echo else .shell
  | .watch _ => .shell

def carryOut (s : Session) : Request → Step Unit
  | .tree _ docs json => s.printTree docs json
  | .lenses _ => s.printLenses
  | .run .. => s.runScript
  | .test target className _ => s.runTestcase className (splitLine target).2
  | .env .. => s.checkEnvironment
  | .install .. => s.installRequirements
  | .init _ force => s.writeSettings force
  | .watch _ => s.watch

end Request

/-- How a request ended, what was printed, and the files afterwards. -/
structure Finished where
  outcome : Except Failure Unit
  printed : Printed
  files : FileTree

/-- Leave a world: its terminals are closed. -/
def closeTerminals (w : World) : World :=
  match w.host with
  | .console c =>
    let (c, files) := c.closeAll w.files
    { w with host := .console c, files := files }
  | .recorder _ => w

/-- What was printed in a world. Shells print on the same streams, and end after the console has
printed its last. -/
def printedIn (w : World) : Printed :=
  match w.host with
  | .console c => c.printed.append c.shellPrinted
  | .recorder _ => Printed.none

def finish (outcome : Except Failure Unit) (w : World) : Finished :=
  let w := closeTerminals w
  ⟨outcome, printedIn w, w.files⟩

/-- Work that would wait for ever has come to nothing. -/
def stuck : Failure := .because "Nothing was run"

/-- Carry out a request on files. -/
def execute (files : FileTree) (temporary : Path) (a : Arguments) : Finished :=
  let r := a.request
  match Session.open ⟨files, temporary, a.assumed, r.mode⟩ r.path with
  | (.error failure, w) => finish (.error failure) w
  | (.ok s, w) =>
    let (outcome, pool) := Schedule.run (r.carryOut s).run ⟨w, []⟩
    finish (outcome.getD (.error stuck)) pool.world

end CommandLine
end Testbench
