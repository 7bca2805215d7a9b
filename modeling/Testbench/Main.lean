import Testbench.CommandLine.Execute
import Testbench.CommandLine.Usage
import Testbench.Files.Change

/-!
# Main — the tool on the working directory

The files below the working directory are read, the request is carried out on them, and what changed
is written back. A file can be executed if it names an interpreter in its first line.
-/

namespace Testbench
namespace CommandLine

/-- Whether content starts with the mark of a script. -/
def isScript (content : ByteArray) : Bool := content.toList.take 2 == "#!".toUTF8.toList

/-- The nodes in a directory and below it. -/
partial def nodesBelow (dir : String) (here : Location) : IO (List (Location × FileNode)) := do
  let mut nodes := []
  for entry in ← (← IO.FS.realPath dir).readDir do
    let there := here ++ [entry.fileName]
    let data ← entry.path.symlinkMetadata
    match data.type with
    | .dir =>
      let below ← nodesBelow entry.path.toString there
      nodes := nodes ++ (there, FileNode.dir) :: below
    | .file =>
      let content ← IO.FS.readBinFile entry.path
      let time := data.modified.sec * 1000000000 + data.modified.nsec.toNat
      nodes := nodes ++ [(there, .file ⟨content, isScript content, false, time⟩)]
    | _ => pure ()
  pure nodes

/-- The latest time of any file. -/
def latest (nodes : List (Location × FileNode)) : Int :=
  nodes.foldl (fun time entry => match entry.2 with
    | .file data => max time data.modified
    | _ => time) 0

/-- The files of the working directory. -/
def snapshot : IO FileTree := do
  let cwd : Path := ⟨(← IO.currentDir).toString⟩
  let here := (Path.names cwd.components).filter (· != "/")
  let nodes ← nodesBelow cwd.text here
  let t := FileTree.start cwd (latest nodes + 1)
  pure { t with nodes := t.nodes ++ nodes }

def perform : Change → IO Unit
  | .remove p => do
    if ← (← IO.FS.realPath p.text).isDir then IO.FS.removeDirAll p.text
    else if ← (← IO.FS.realPath p.text).pathExists then IO.FS.removeFile p.text
  | .makeDir p => IO.FS.createDirAll p.text
  | .write p content => IO.FS.writeBinFile p.text content

/-- Carry out a request on the working directory; tells the exit code. -/
def serve (a : Arguments) : IO UInt32 := do
  let before ← snapshot
  let temporary : Path := ⟨(← IO.getEnv "TMPDIR").getD "/tmp"⟩
  let finished := execute before temporary a
  for change in before.changes finished.files do perform change
  IO.print finished.printed.out
  IO.eprint finished.printed.err
  match finished.outcome with
  | .ok () => pure 0
  | .error failure => do
    IO.eprintln ("Error: " ++ failure.text)
    pure 1

end CommandLine
end Testbench

open Testbench.CommandLine in
def main (arguments : List String) : IO UInt32 := do
  match Arguments.parse arguments with
  | .ok a => serve a
  | .error e => do
    if e.exitCode == 0 then IO.print e.message else IO.eprint e.message
    pure (UInt32.ofNat e.exitCode)
