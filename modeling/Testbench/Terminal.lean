import Testbench.World

/-!
# Terminal — the terminal of a project

Each project has a terminal of its own, which goes by its root.

- `Terminal.nameFor`           : its name;
- `make`, `send`, `appear`, `close` : what a project does with it.
-/

namespace Testbench
namespace Terminal

/-- The name of the terminal of a root. -/
def nameFor (root : Path) : String := "QTA - " ++ root.text

/-- Open the terminal of a root, if there is none, in that folder. -/
def make (root : Path) : Act Unit := Act.tell (Host.openTerminal (nameFor root) root)

def send (root : Path) (line : String) : Act Unit := Act.tell (Host.send (nameFor root) line)

def appear (root : Path) : Act Unit := do
  let files := (← Act.world).files
  Act.tell (Host.showTerminal files (nameFor root))

def close (root : Path) : Act Unit := modify fun w =>
  let (host, files) := w.host.closeTerminal (nameFor root) w.files
  { w with host := host, files := files }

end Terminal
end Testbench
