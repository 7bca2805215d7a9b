import Testbench.Shell.Evaluate
import Testbench.Invocation

/-!
# Run — programs and shells on a tree of files

- `Shell.runProgram` : run an invocation to its end;
- `Shell.runLines`   : a shell that is fed lines until it is closed, unless a console has another.
-/

namespace Testbench
namespace Shell

/-- How deep evaluation may go. -/
def depthLimit : Nat := 1000000

/-- What programs inherit from the system. -/
def systemVars : Vars := [("PATH", defaultPath)]

/-- The files as seen from a directory. -/
def enter (files : FileTree) (dir : Path) : Except FileError FileTree :=
  match files.stat dir with
  | .error cause => .error cause
  | .ok .dir =>
    .ok { files with cwd := ⟨"/" ++ "/".intercalate ((files.location? dir).getD [])⟩ }
  | .ok _ => .error .notDirectory

/-- Milliseconds that any program takes at least. -/
def shortestRun : Nat := 1

/-- Run an invocation to its end; tells how long that took. -/
def runProgram (files : FileTree) (i : Invocation) : Except FileError (Outcome × Nat) × FileTree :=
  let entered := match i.workingDir with
    | some dir => enter files dir
    | none => .ok files
  match entered with
  | .error cause => (.error cause, files)
  | .ok inside =>
    match spawn depthLimit inside systemVars false i.program i.arguments ByteArray.empty with
    | .error cause => (.error cause, files)
    | .ok f =>
      (.ok (⟨f.ending.code?.map Int.ofNat, f.out, f.err⟩, f.elapsed + shortestRun),
        { f.files with cwd := files.cwd })

/-- The name under which the shell of a terminal reports errors. -/
def terminalShell : String := "/bin/sh"

/-- What a shell in a directory prints when it is fed lines, and the files afterwards. -/
def runLines (files : FileTree) (cwd : Path) (lines : List String) : String × String × FileTree :=
  match enter files cwd with
  | .error _ => ("", "", files)
  | .ok inside =>
    let input := (String.join (lines.map (· ++ "\n"))).toUTF8
    let f := runShell depthLimit inside systemVars terminalShell [] input
    ((String.fromUTF8? f.out).getD "", (String.fromUTF8? f.err).getD "",
      { f.files with cwd := files.cwd })

end Shell
end Testbench
