import Testbench.Json.Value

/-!
# Output — what the outline script prints, made up for a trial

- `Sample.Class`       : a class that holds nothing;
- `Sample.listing`     : the outline of a module with such classes;
- `Sample.syntaxError` : the outline of a module that cannot be read.
-/

namespace Testbench
namespace Sample

structure Class where
  name : String
  line : Nat
  endLine : Nat
  isTestcase : Bool
  deriving DecidableEq, Repr, Inhabited

/-- An object with its fields in order of their names. -/
def record (fields : Json.Fields) : Json := .object (Json.Fields.ofList fields)

def Class.toJson (c : Class) : Json :=
  record [("name", .text c.name), ("docstring", .text ""), ("line", .nat c.line),
    ("endline", .nat c.endLine), ("is_testcase", .bool c.isTestcase), ("bases", .array []),
    ("static_fields", .array []), ("functions", .array []), ("controls", .array [])]

def listing (classes : List Class) : Json :=
  record [("docstring", .null), ("classes", .array (classes.map Class.toJson)),
    ("functions", .array []), ("errors", .array [])]

def syntaxError (line : Nat) : Json :=
  record [("classes", .array []), ("functions", .array []),
    ("errors", .array [record [("msg", .text "invalid syntax"), ("line", .nat line)]])]

end Sample
end Testbench
