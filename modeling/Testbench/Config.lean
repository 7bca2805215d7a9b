import Testbench.Files
import Testbench.Json.Record
import Testbench.Json.Printer

/-!
# Config — the configuration of the tool

A configuration lies in `.qta-runner.json` or `qta-runner.json`, at or above the folder it is for.

- `Config`          : the settings of the tool, with their defaults;
- `Config.decode?`, `Config.toJson` : as JSON;
- `Config.load`, `Config.save`      : as a file;
- `Config.find?`, `Config.discover` : the nearest one.
-/

namespace Testbench

structure Config where
  /-- Whether test cases get a lens. -/
  lenses : Bool
  /-- The package index of projects that name none. -/
  pipSource : Option String
  /-- The interpreter of projects that name none. -/
  python : Option String
  parserScript : Option Path
  requirementsScript : Option Path
  /-- Seconds between two writes of the parse cache. -/
  flushSeconds : Nat
  /-- Seconds that a listing may take. -/
  listingSeconds : Nat
  /-- The folder name offered for a new environment. -/
  envDirName : String
  deriving DecidableEq, Repr, Inhabited

namespace Config

def default : Config :=
  { lenses := true
    pipSource := none
    python := none
    parserScript := none
    requirementsScript := none
    flushSeconds := 10
    listingSeconds := 60
    envDirName := ".env" }

/-- Both periods last a second at least. -/
def flushMillis (c : Config) : Nat := max c.flushSeconds 1 * 1000

def listingMillis (c : Config) : Nat := max c.listingSeconds 1 * 1000

/-! ## As JSON -/

def fieldNames : List String :=
  ["enable_code_lens", "pip_source", "python", "parser_script", "requirements_script",
    "flush_interval_secs", "listing_timeout_secs", "env_dir_name"]

def secondsBound : Nat := Nat.pow 2 64

open Json (Source) in
def decode? {α : Type} (src : Source α) (x : α) : Option Config := do
  let path (y : α) : Option Path := (src.text? y).map Path.mk
  match ← src.slots? fieldNames x with
  | [lenses, pipSource, python, parserScript, requirementsScript, flush, listing, envDirName] =>
    some {
      lenses := ← Source.orDefault? src.bool? default.lenses lenses
      pipSource := ← Source.orDefault? (src.nullable? src.text?) none pipSource
      python := ← Source.orDefault? (src.nullable? src.text?) none python
      parserScript := ← Source.orDefault? (src.nullable? path) none parserScript
      requirementsScript := ← Source.orDefault? (src.nullable? path) none requirementsScript
      flushSeconds := ←
        Source.orDefault? (src.natBelow? secondsBound) default.flushSeconds flush
      listingSeconds := ←
        Source.orDefault? (src.natBelow? secondsBound) default.listingSeconds listing
      envDirName := ← Source.orDefault? src.text? default.envDirName envDirName }
  | _ => none

def ofText? (s : String) : Option Config := do
  decode? Json.Source.draft (Json.maxLevels, ← Json.Draft.read? s)

/-- A field that is written only if it is set. -/
def optional (name : String) : Option String → Json.Fields
  | some s => [(name, .text s)]
  | none => []

def toJson (c : Config) : Json :=
  .object ([("enable_code_lens", .bool c.lenses)] ++ optional "pip_source" c.pipSource
    ++ optional "python" c.python ++ optional "parser_script" (c.parserScript.map (·.text))
    ++ optional "requirements_script" (c.requirementsScript.map (·.text))
    ++ [("flush_interval_secs", .nat c.flushSeconds),
        ("listing_timeout_secs", .nat c.listingSeconds), ("env_dir_name", .text c.envDirName)])

/-! ## As a file -/

def load (t : FileTree) (p : Path) : Except Error Config :=
  match t.readText p with
  | .error cause => .error (.file cause)
  | .ok s => match ofText? s with
    | some c => .ok c
    | none => .error (.config .unreadable)

def save (c : Config) (p : Path) : FileM Unit := FileM.writeText p (c.toJson.pretty 2)

/-- The names of a configuration file, the preferred one first. -/
def fileNames : List String := [".qta-runner.json", "qta-runner.json"]

/-- The configuration file of one folder. -/
def inFolder? (t : FileTree) (dir : Path) : Option Path :=
  (fileNames.map dir.joinText).find? t.exists?

/-- The nearest configuration file at or above a path. -/
def find? (t : FileTree) (start : Path) : Option Path :=
  start.ancestors.findSome? (inFolder? t)

/-- The nearest configuration, or the default. -/
def discover (t : FileTree) (start : Path) : Except Error Config :=
  match find? t start with
  | some p => load t p
  | none => .ok default

end Config
end Testbench
