import Testbench.Text.Split

/-!
# Path — the names of files

A path keeps the text it was written with, and is compared by its components: repeated slashes,
inner `.` segments and slashes at the end make no difference to the components. Names that are not
UTF-8 are no text and have no path here.

- `Path`, `Path.Component`         : spelled paths and what they are made of;
- `Path.components`                : the components of a spelling;
- `Path.same`                      : equality by components;
- `Path.join`, `Path.parent?`      : extending and shortening a spelling;
- `Path.fileName?`, `Path.extension?` : the last name and its ending;
- `Path.below?`                    : the components of a path below another;
- `Path.absolute?`                 : a spelling that starts at the root;
- `Path.fold`                      : `.` and `..` folded away.
-/

namespace Testbench

/-- A path as it is spelled. -/
structure Path where
  text : String
  deriving DecidableEq, Repr, Inhabited

namespace Path

inductive Component where
  | root
  | here
  | up
  | name (s : String)
  deriving DecidableEq, Repr, Inhabited

/-! ## Segments -/

def chars (p : Path) : List Char := p.text.toList

def ofChars (cs : List Char) : Path := ⟨String.ofList cs⟩

def isEmpty (p : Path) : Bool := p.text.isEmpty

def isAbsolute (p : Path) : Bool := p.chars.head? == some '/'

/-- Bytes of the spelling. -/
def size (p : Path) : Nat := p.text.utf8ByteSize

/-- A segment that names nothing of its own. -/
def isSilent (segment : List Char) : Bool := segment.isEmpty || segment == ['.']

/-- A spelling cut into its lead, which is a leading slash or a leading `.` segment, and the
rest. -/
def cut (cs : List Char) : List Char × List Char :=
  match cs with
  | '/' :: rest => (['/'], rest)
  | ['.'] => (['.'], [])
  | '.' :: '/' :: rest => (['.'], '/' :: rest)
  | _ => ([], cs)

/-- The component that a lead stands for. -/
def leadComponents (lead : List Char) : List Component :=
  match lead with
  | ['/'] => [.root]
  | ['.'] => [.here]
  | _ => []

def segmentComponent (segment : List Char) : Component :=
  if segment == ['.', '.'] then .up else .name (String.ofList segment)

/-- The components of a rest. -/
def bodyComponents (body : List Char) : List Component :=
  ((Text.splitOn '/' body).filter fun s => !isSilent s).map segmentComponent

def components (p : Path) : List Component :=
  let (lead, body) := cut p.chars
  leadComponents lead ++ bodyComponents body

/-- Two spellings with the same components. -/
def same (p q : Path) : Bool := p.components == q.components

/-! ## Extending -/

/-- A path read from inside another. -/
def join (p q : Path) : Path :=
  if q.isAbsolute then q
  else if p.isEmpty || p.chars.getLast? == some '/' then ⟨p.text ++ q.text⟩
  else ⟨p.text ++ "/" ++ q.text⟩

def joinText (p : Path) (s : String) : Path := p.join ⟨s⟩

/-- How a component is spelled when it is joined. -/
def Component.path : Component → Path
  | .root => ⟨"/"⟩
  | .here => ⟨"."⟩
  | .up => ⟨".."⟩
  | .name s => ⟨s⟩

/-! ## Shortening -/

/-- Segments from the last to the first, without the silent ones in front. -/
def soundFromEnd (segments : List (List Char)) : List (List Char) :=
  segments.dropWhile isSilent

/-- The spelling without its last component, `none` for the root and for the empty path. -/
def parent? (p : Path) : Option Path :=
  let (lead, body) := cut p.chars
  match soundFromEnd (Text.splitOn '/' body).reverse with
  | _ :: rest => some (ofChars (lead ++ Text.joinWith '/' (soundFromEnd rest).reverse))
  | [] => if lead == ['.'] then some ⟨""⟩ else none

/-- The last component, if it is a name. -/
def fileName? (p : Path) : Option String :=
  let (_, body) := cut p.chars
  match soundFromEnd (Text.splitOn '/' body).reverse with
  | last :: _ => if last == ['.', '.'] then none else some (String.ofList last)
  | [] => none

/-- What stands after the last dot of the file name, unless the name has no other dot before it
than the one it starts with. -/
def extension? (p : Path) : Option String := do
  let name ← p.fileName?
  let (before, after) ← Text.splitLast? '.' name.toList
  if before.isEmpty then none else some (String.ofList after)

/-- The path and its parents, nearest first; the number bounds how many. -/
def chain (p : Path) : Nat → List Path
  | 0 => [p]
  | n + 1 => match p.parent? with
    | some q => p :: q.chain n
    | none => [p]

/-- The path itself, its parent, and so on up. -/
def ancestors (p : Path) : List Path := p.chain p.chars.length

/-! ## Comparing -/

/-- What remains of a list after the start it shares with another. -/
def afterStart? {α : Type} [DecidableEq α] : List α → List α → Option (List α)
  | [], rest => some rest
  | a :: start, b :: rest => if a = b then afterStart? start rest else none
  | _ :: _, [] => none

/-- The components of `p` below `base`. -/
def below? (base p : Path) : Option (List Component) :=
  afterStart? base.components p.components

def startsWith (p base : Path) : Bool := (below? base p).isSome

/-- The names among components. -/
def names (cs : List Component) : List String :=
  cs.filterMap fun
    | .name s => some s
    | _ => none

/-! ## Absolute and folded paths -/

/-- The components after a leading `.`. -/
def afterHere (cs : List Component) : List Component :=
  match cs with
  | .here :: rest => rest
  | _ => cs

def pushAll (p : Path) (cs : List Component) : Path :=
  cs.foldl (fun q c => q.join c.path) p

/-- The path read from `cwd`, with a slash at its end kept and two slashes at its start, if there
are exactly two; `none` for the empty path. -/
def absolute? (cwd p : Path) : Option Path :=
  if p.isEmpty then none
  else
    let cs := afterHere p.components
    let twoSlashes := ['/', '/'].isPrefixOf p.chars && !(['/', '/', '/'].isPrefixOf p.chars)
    let start : Path × List Component :=
      if p.isAbsolute then
        if twoSlashes then (⟨"//"⟩, cs.drop 1) else (⟨""⟩, cs)
      else (cwd, cs)
    let whole := pushAll start.1 start.2
    some (if p.chars.getLast? == some '/' then whole.join ⟨""⟩ else whole)

/-- Fold one component into a folded path; what cannot be climbed is kept or dropped. -/
def foldStep (keepUp : Bool) (p : Path) : Component → Path
  | .here => p
  | .up => match p.parent? with
    | some q => q
    | none => if keepUp then p.join Component.up.path else p
  | c => p.join c.path

/-- The path with `.` and `..` folded away; `..` with nothing before it is dropped. -/
def fold (p : Path) : Path :=
  p.components.foldl (foldStep false) ⟨""⟩

/-- The path with `.` and `..` folded away; `..` with nothing before it is kept. -/
def foldKeeping (p : Path) : Path :=
  p.components.foldl (foldStep true) ⟨""⟩

end Path
end Testbench
