import Testbench.Files
import Testbench.Outline.Codec

/-!
# Table — parsed documents by file

A table keeps one document per key, with the time at which the source was last modified when it was
parsed. Its file is one JSON object: a version, then for each key the pair of time and document.

- `Table.get?`, `Table.insert` : entries;
- `Table.toJson`, `Table.ofJson?` : as JSON;
- `Table.load`, `Table.save`   : as a file. Loading never fails: what is not a table is empty.
-/

namespace Testbench
namespace Cache

open Outline (Document)
open Json (Source)

structure Entry where
  modified : Nat
  document : Document
  deriving Repr, Inhabited

/-- Entries sorted by key, each key once. There is no version: a table is made empty or comes from a
file of the current version, so that it is written with that one. -/
structure Table where
  entries : List (String × Entry)
  deriving Repr, Inhabited

/-- Bumped whenever the layout of documents changes. -/
def formatVersion : Nat := 1

def versionKey : String := "formatVersion"

/-- One past the largest time. -/
def timeBound : Nat := Nat.pow 2 64

def versionBound : Nat := Nat.pow 2 32

namespace Table

def empty : Table := ⟨[]⟩

/-! ## Entries -/

def find? (table : Table) (key : String) : Option Entry :=
  (table.entries.find? fun e => e.1 == key).map (·.2)

/-- The document of a key, if it was parsed at the given time. -/
def get? (table : Table) (key : String) (modified : Nat) : Option Document :=
  ((table.find? key).filter fun e => e.modified == modified).map (·.document)

def insertEntry (key : String) (entry : Entry) : List (String × Entry) → List (String × Entry)
  | [] => [(key, entry)]
  | e :: rest =>
    if key < e.1 then (key, entry) :: e :: rest
    else if key == e.1 then (key, entry) :: rest
    else e :: insertEntry key entry rest

def insert (table : Table) (key : String) (modified : Nat) (document : Document) : Table :=
  ⟨insertEntry key ⟨modified, document⟩ table.entries⟩

def size (table : Table) : Nat := table.entries.length

def isEmpty (table : Table) : Bool := table.entries.isEmpty

/-! ## As JSON -/

def Entry.toJson (e : Entry) : Json := .array [.nat e.modified, e.document.toJson]

def toJson (table : Table) : Json :=
  .object ((versionKey, .nat formatVersion) :: table.entries.map fun e =>
    (e.1, Entry.toJson e.2))

def text (table : Table) : String := table.toJson.compact

def same (a b : Table) : Bool := a.toJson.same b.toJson

def Entry.decode? (j : Json) : Option Entry := do
  match ← Source.value.items? j with
  | [modified, document] =>
    some {
      modified := ← modified.below? timeBound
      document := ← Document.ofJson? document }
  | _ => none

/-- The entries among the fields of an object. -/
def entries? (fields : Json.Fields) : Option (List (String × Entry)) :=
  (fields.filter fun f => f.1 != versionKey).mapM fun f => do some (f.1, ← Entry.decode? f.2)

/-- The table of a value that carries the current version and nothing but entries besides. -/
def ofJson? (j : Json) : Option Table := do
  let fields ← j.fields?
  let version ← (← Json.Fields.get? fields versionKey).below? versionBound
  if version == formatVersion then some ⟨← entries? fields⟩ else none

/-! ## As a file -/

def load (t : FileTree) (p : Path) : Table :=
  match t.readText p with
  | .error _ => empty
  | .ok s => (((Json.read? s).bind ofJson?)).getD empty

/-- Write a table, together with the directories it lies in. -/
def save (table : Table) (p : Path) : FileM Unit := do
  match p.parent? with
  | some dir => FileM.createDirs dir
  | none => pure ()
  FileM.writeText p table.text

end Table
end Cache
end Testbench
