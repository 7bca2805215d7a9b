import Testbench.Cache.Table
import Testbench.ProjectFiles

/-!
# Store — the parse caches of many folders, written behind

Tables are loaded when they are first asked for. What is put into a table only marks it dirty; a
flush writes the dirty tables out. A flush takes the dirty tables and clears their marks in one
step, then writes them one by one, and marks a table again if its write fails.

- `Vault`                      : where tables are kept between runs;
- `Store.lookup`, `Store.put`  : documents;
- `Store.takeDirty`, `Store.writeOne` : the steps of a flush;
- `Store.flushAll`, `Store.flushRoot`, `Store.evict` : whole flushes.
-/

namespace Testbench
namespace Cache

open Outline (Document)

/-- A place that keeps one table per folder. A save tells whether it succeeded. -/
structure Vault (δ : Type) where
  load : δ → Path → Table
  save : δ → Path → Table → Bool × δ

def fileName : String := "python.cache"

/-- The cache file of a folder. -/
def fileOf (root : Path) : Path :=
  (root.joinText ProjectFiles.settingsDirName).joinText fileName

/-- Tables in the files of their folders. -/
def onFiles : Vault FileTree where
  load t root := Table.load t (fileOf root)
  save t root table :=
    let (outcome, t) := (table.save (fileOf root)).on t
    (outcome.isOk, t)

/-- One table in memory. -/
structure Slot where
  root : Path
  table : Table
  dirty : Bool
  deriving Repr, Inhabited

/-- The tables in memory, at most one per folder. -/
structure Store where
  slots : List Slot
  deriving Repr, Inhabited

namespace Store

variable {δ : Type}

def empty : Store := ⟨[]⟩

/-! ## Slots -/

def slot? (s : Store) (root : Path) : Option Slot := s.slots.find? fun slot => slot.root.same root

/-- Change the slot of a folder, if there is one. -/
def modify (s : Store) (root : Path) (f : Slot → Slot) : Store :=
  ⟨s.slots.map fun slot => if slot.root.same root then f slot else slot⟩

/-- The store with a slot for a folder. -/
def open? (v : Vault δ) (s : Store) (d : δ) (root : Path) : Store :=
  match s.slot? root with
  | some _ => s
  | none => ⟨s.slots ++ [⟨root, v.load d root, false⟩]⟩

/-! ## Documents -/

/-- The document of a key, if it was parsed at the given time. -/
def lookup (v : Vault δ) (s : Store) (d : δ) (root : Path) (key : String) (modified : Nat) :
    Option Document × Store :=
  let s := s.open? v d root
  ((s.slot? root).bind fun slot => slot.table.get? key modified, s)

def put (v : Vault δ) (s : Store) (d : δ) (root : Path) (key : String) (modified : Nat)
    (document : Document) : Store :=
  (s.open? v d root).modify root fun slot =>
    { slot with table := slot.table.insert key modified document, dirty := true }

def isDirty (s : Store) (root : Path) : Bool := ((s.slot? root).map (·.dirty)).getD false

/-! ## Flushing -/

/-- A table on its way out. -/
abbrev Snapshot := Path × Table

/-- The dirty tables among the chosen folders; their marks are cleared. -/
def takeDirty (s : Store) (chosen : Path → Bool) : List Snapshot × Store :=
  let takes (slot : Slot) : Bool := slot.dirty && chosen slot.root
  ((s.slots.filter takes).map fun slot => (slot.root, slot.table),
    ⟨s.slots.map fun slot => if takes slot then { slot with dirty := false } else slot⟩)

/-- Write one table; on failure its folder is dirty again, if it is still in memory. -/
def writeOne (v : Vault δ) (s : Store) (d : δ) (snapshot : Snapshot) : Bool × Store × δ :=
  let (written, d) := v.save d snapshot.1 snapshot.2
  if written then (true, s, d)
  else (false, s.modify snapshot.1 fun slot => { slot with dirty := true }, d)

/-- Write tables in order and count those that were written. -/
def writeOut (v : Vault δ) (s : Store) (d : δ) : List Snapshot → Nat × Store × δ
  | [] => (0, s, d)
  | snapshot :: rest =>
    let (written, s, d) := s.writeOne v d snapshot
    let (count, s, d) := writeOut v s d rest
    ((if written then 1 else 0) + count, s, d)

def flush (v : Vault δ) (s : Store) (d : δ) (chosen : Path → Bool) : Nat × Store × δ :=
  let (snapshots, s) := s.takeDirty chosen
  s.writeOut v d snapshots

/-- Write every dirty table; tells how many were written. -/
def flushAll (v : Vault δ) (s : Store) (d : δ) : Nat × Store × δ :=
  s.flush v d fun _ => true

/-- Write the table of one folder if it is dirty; tells whether it was written. -/
def flushRoot (v : Vault δ) (s : Store) (d : δ) (root : Path) : Bool × Store × δ :=
  let (count, s, d) := s.flush v d fun other => other.same root
  (count > 0, s, d)

/-- Forget the table of a folder. -/
def drop (s : Store) (root : Path) : Store :=
  ⟨s.slots.filter fun slot => !slot.root.same root⟩

/-- Flush the table of a folder and forget it. -/
def evict (v : Vault δ) (s : Store) (d : δ) (root : Path) : Store × δ :=
  let (_, s, d) := s.flushRoot v d root
  (s.drop root, d)

end Store
end Cache
end Testbench
