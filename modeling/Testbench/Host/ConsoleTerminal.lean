import Testbench.Path

/-!
# ConsoleTerminal — a terminal that does nothing until it is shown

Lines that are sent early wait. Showing the terminal starts its shell, if it has one, and delivers
what waited; later lines are delivered at once. Closing forgets what waits and ends the shell.

Starting a shell and feeding it a line may fail. What fails is told to each operation, which in turn
tells the lines that it delivered. A line that is only to be seen is printed in any case.

- `TerminalMode`    : lines for a shell, or lines to be seen;
- `ConsoleTerminal` : the terminal;
- `send`, `appear`, `close` : its operations.
-/

namespace Testbench
namespace Host

inductive TerminalMode where
  /-- Feed lines to a shell. -/
  | shell
  /-- Print lines instead of running them. -/
  | echo
  deriving DecidableEq, Repr, Inhabited

structure ConsoleTerminal where
  name : String
  cwd : Path
  mode : TerminalMode
  /-- Lines from before the terminal was shown. -/
  pending : List String
  shown : Bool
  /-- The lines fed to the running shell, if one runs. -/
  shell : Option (List String)
  deriving Repr, Inhabited

namespace ConsoleTerminal

def fresh (name : String) (cwd : Path) (mode : TerminalMode) : ConsoleTerminal :=
  ⟨name, cwd, mode, [], false, none⟩

/-- Deliver a line, unless it is for a shell and that fails, or no shell runs. -/
def deliver (t : ConsoleTerminal) (works : Bool) (line : String) : List String × ConsoleTerminal :=
  match t.mode, t.shell with
  | .echo, _ => ([line], t)
  | .shell, some fed =>
    if works then ([line], { t with shell := some (fed ++ [line]) }) else ([], t)
  | .shell, none => ([], t)

/-- Deliver lines in order; `works` tells which of them can be. -/
def deliverAll (t : ConsoleTerminal) : (works : List Bool) → List String →
    List String × ConsoleTerminal
  | _, [] => ([], t)
  | works, line :: rest =>
    let (first, t) := t.deliver (works.headD true) line
    let (others, t) := deliverAll t works.tail rest
    (first ++ others, t)

def send (t : ConsoleTerminal) (works : Bool) (line : String) : List String × ConsoleTerminal :=
  if t.shown then t.deliver works line
  else ([], { t with pending := t.pending ++ [line] })

/-- Show the terminal. `starts` tells whether a shell can be started. -/
def appear (t : ConsoleTerminal) (starts : Bool) (works : List Bool) :
    List String × ConsoleTerminal :=
  if t.shown then ([], t)
  else
    let shell := if t.mode == .shell && starts then some [] else t.shell
    { t with shown := true, pending := [], shell := shell }.deliverAll works t.pending

/-- Close the terminal; tells what its shell was fed, if one ran. -/
def close (t : ConsoleTerminal) : Option (List String) × ConsoleTerminal :=
  (t.shell, { t with pending := [], shell := none })

end ConsoleTerminal
end Host
end Testbench
