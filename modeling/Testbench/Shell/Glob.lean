import Testbench.Files
import Testbench.Shell.Pattern

/-!
# Glob — patterns in place of the names of files

- `Glob.expand` : the paths that a pattern describes, in order.
-/

namespace Testbench
namespace Shell
namespace Glob

/-- Whether a character stands for others. -/
def isActive (c : Char × Bool) : Bool := !c.2 && "*?[".contains c.1

/-- The parts of a pattern between slashes. -/
def parts : Pattern → List Pattern
  | [] => [[]]
  | c :: rest =>
    if c.1 == '/' then [] :: parts rest
    else match parts rest with
      | [] => [[c]]
      | part :: others => (c :: part) :: others

def plain (p : Pattern) : List Char := p.map (·.1)

/-- The entries of a directory that a part describes. A dot in front has to be written out. -/
def entries (t : FileTree) (dir : List Char) (part : Pattern) : List (List Char) :=
  let place : Path := if dir.isEmpty then ⟨"."⟩ else Path.ofChars dir
  let names : List (List Char) := match t.list place with
    | .ok found => found.map fun (name, _) => name.toList
    | .error _ => []
  names.filter fun name =>
    part.matches name && (name.head? != some '.' || part.head?.any fun (c, _) => c == '.')

/-- The paths below a directory, which is written as `dir`. -/
def below (t : FileTree) : List Char → List Pattern → List (List Char)
  | dir, [] => [dir]
  | dir, [part] =>
    if part.any isActive then (entries t dir part).map (dir ++ ·)
    else
      let p := dir ++ plain part
      if part.isEmpty || (t.statLink (Path.ofChars p)).isOk then [p] else []
  | dir, part :: others =>
    if part.any isActive then
      (entries t dir part).flatMap fun name =>
        let next := dir ++ name
        if t.isDir (Path.ofChars next) then below t (next ++ ['/']) others else []
    else below t (dir ++ plain part ++ ['/']) others

/-- The paths that a pattern describes; the text of the pattern if there are none. -/
def expand (t : FileTree) (p : Pattern) : List String :=
  let text := String.ofList (plain p)
  if !p.any isActive then [text]
  else match below t [] (parts p) with
    | [] => [text]
    | found => found.map String.ofList

end Glob
end Shell
end Testbench
