import Testbench.Files

/-!
# Change — what leads from one tree of files to another

- `Change`           : one thing to do;
- `FileTree.changes` : all that has to be done, in order.
-/

namespace Testbench

inductive Change where
  | remove (p : Path)
  | makeDir (p : Path)
  | write (p : Path) (content : ByteArray)
  deriving Inhabited

namespace FileTree

def pathOf (here : Location) : Path := ⟨"/" ++ "/".intercalate here⟩

/-- Whether a node needs nothing to be done, given what is there. -/
def isSettled : FileNode → Option FileNode → Bool
  | .dir, some .dir => true
  | .file new, some (.file old) => new.content == old.content
  | .link _, _ => true
  | _, _ => false

/-- What has to be done for one node. -/
def change? (before : FileTree) (here : Location) (node : FileNode) : Option Change :=
  if isSettled node (before.node? here) then none
  else match node with
    | .dir => some (.makeDir (pathOf here))
    | .file data => some (.write (pathOf here) data.content)
    | .link _ => none

/-- Removals come first; directories come before what they hold. Links stay as they are. -/
def changes (before after : FileTree) : List Change :=
  (before.nodes.filterMap fun entry =>
    if (after.node? entry.1).isNone then some (.remove (pathOf entry.1)) else none)
  ++ after.nodes.filterMap fun entry => change? before entry.1 entry.2

end FileTree
end Testbench
