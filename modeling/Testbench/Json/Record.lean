import Testbench.Json.Draft

/-!
# Record — reading records with fixed fields

A record is written as an object or as the array of its fields in order. In an object unknown fields
are passed over and a known field may stand once; an array may be short but not long.

- `Source`       : what a reader may see of a value, one layer at a time;
- `Source.value`, `Source.draft` : values and drafts as sources;
- `Source.slots?`: the fields of a record by position;
- `Source.natBelow?` and its like : readers for single fields.
-/

namespace Testbench
namespace Json

/-- The outermost layer of a value whose parts are of type `α`. -/
inductive Layer (α : Type) where
  | null
  | bool (value : Bool)
  | number (value : Number)
  | text (value : String)
  | array (items : List α)
  | object (fields : List (String × α))

/-- A way to look into values of type `α`; a look may fail. -/
structure Source (α : Type) where
  layer? : α → Option (Layer α)
  value? : α → Option Json

namespace Source

variable {α β : Type}

/-! ## The two sources -/

def value : Source Json where
  layer? j := some <| match j with
    | .null => .null
    | .bool b => .bool b
    | .number n => .number n
    | .text s => .text s
    | .array items => .array items
    | .object fields => .object fields
  value? j := some j

/-- The fields of a draft object, if every key is a text. -/
def keyed? : List (Option String × Draft) → Option (List (String × Draft))
  | [] => some []
  | (key, d) :: rest => do
    let k ← key
    let fields ← keyed? rest
    some ((k, d) :: fields)

/-- Drafts beside the number of levels that may still nest. -/
def draft : Source (Nat × Draft) where
  layer? := fun (levels, d) => match d with
    | .null => some .null
    | .bool b => some (.bool b)
    | .numeral n => n.value?.map .number
    | .text s => s.map .text
    | .array items => match levels with
      | 0 => none
      | levels + 1 => some (.array (items.map fun item => (levels, item)))
    | .object fields => match levels with
      | 0 => none
      | levels + 1 => (keyed? fields).map fun fs =>
        .object (fs.map fun f => (f.1, (levels, f.2)))
  value? := fun (levels, d) => d.value? levels

/-! ## Slots -/

/-- The one field of a name; `none` if there are two. -/
def slot? (fields : List (String × α)) (name : String) : Option (Option α) :=
  match fields.filter fun f => f.1 == name with
  | [] => some none
  | [f] => some (some f.2)
  | _ => none

def slotsOfFields? (fields : List (String × α)) (names : List String) :
    Option (List (Option α)) :=
  names.mapM (slot? fields)

def slotsOfItems? (items : List α) (count : Nat) : Option (List (Option α)) :=
  if items.length > count then none
  else some (items.map some ++ List.replicate (count - items.length) none)

/-- One slot per name, empty where the record leaves the field out. -/
def slots? (src : Source α) (names : List String) (x : α) : Option (List (Option α)) := do
  match ← src.layer? x with
  | .object fields => slotsOfFields? fields names
  | .array items => slotsOfItems? items names.length
  | _ => none

/-! ## Readers for one field -/

def text? (src : Source α) (x : α) : Option String := do
  match ← src.layer? x with
  | .text s => some s
  | _ => none

def bool? (src : Source α) (x : α) : Option Bool := do
  match ← src.layer? x with
  | .bool b => some b
  | _ => none

/-- A natural number below a bound. -/
def natBelow? (src : Source α) (bound : Nat) (x : α) : Option Nat := do
  match ← src.layer? x with
  | .number (.int (.ofNat n)) => if n < bound then some n else none
  | _ => none

def items? (src : Source α) (x : α) : Option (List α) := do
  match ← src.layer? x with
  | .array items => some items
  | _ => none

def listOf? (src : Source α) (read : α → Option β) (x : α) : Option (List β) := do
  (← src.items? x).mapM read

/-- An object of free-form values. -/
def object? (src : Source α) (x : α) : Option Fields := do
  match ← src.layer? x with
  | .object _ => (← src.value? x).fields?
  | _ => none

/-- A null or something that `read` accepts. -/
def nullable? (src : Source α) (read : α → Option β) (x : α) : Option (Option β) := do
  match ← src.layer? x with
  | .null => some none
  | _ => (read x).map some

/-- A slot with a default for when it is empty. -/
def orDefault? (read : α → Option β) (default : β) : Option α → Option β
  | none => some default
  | some x => read x

end Source
end Json
end Testbench
