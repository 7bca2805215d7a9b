import Testbench.Json.Double

/-!
# Value — JSON values

An integer within 64 bits stays an integer; every other number is a double.

- `Number`, `Json` : numbers and values;
- `Json.insert`    : adds or replaces a field of an object, keeping the keys sorted;
- `Json.same`      : equality of values.
-/

namespace Testbench
namespace Json

inductive Number where
  | int (value : Int)
  | double (value : Double)
  deriving DecidableEq, Repr, Inhabited

end Json

/-- A JSON value. The fields of an object have a definite order. -/
inductive Json where
  | null
  | bool (value : Bool)
  | number (value : Json.Number)
  | text (value : String)
  | array (items : List Json)
  | object (fields : List (String × Json))
  deriving Repr, Inhabited

namespace Json

/-! ## Fields -/

abbrev Fields := List (String × Json)

/-- The first field of a name. -/
def Fields.get? (fields : Fields) (key : String) : Option Json :=
  (fields.find? fun f => f.1 == key).map (·.2)

/-- Set a field of a list sorted by key. -/
def Fields.insert (fields : Fields) (key : String) (value : Json) : Fields :=
  match fields with
  | [] => [(key, value)]
  | f :: rest =>
    if key < f.1 then (key, value) :: f :: rest
    else if key == f.1 then (key, value) :: rest
    else f :: Fields.insert rest key value

/-- The fields sorted by key; of two fields of one name the later stays. -/
def Fields.ofList (fields : List (String × Json)) : Fields :=
  fields.foldl (fun acc f => acc.insert f.1 f.2) []

/-- Set every field of `updates`. -/
def Fields.extend (fields updates : Fields) : Fields :=
  updates.foldl (fun acc f => acc.insert f.1 f.2) fields

/-! ## Constructors and views -/

def nat (n : Nat) : Json := .number (.int n)

def int (i : Int) : Json := .number (.int i)

/-- An optional text. -/
def textOr : Option String → Json
  | none => .null
  | some s => .text s

def texts (items : List String) : Json := .array (items.map .text)

/-- A field of an object. -/
def field? (j : Json) (key : String) : Option Json :=
  match j with
  | .object fields => Fields.get? fields key
  | _ => none

def text? : Json → Option String
  | .text s => some s
  | _ => none

def bool? : Json → Option Bool
  | .bool b => some b
  | _ => none

def int? : Json → Option Int
  | .number (.int i) => some i
  | _ => none

/-- A natural number below a bound. -/
def below? (bound : Nat) : Json → Option Nat
  | .number (.int (.ofNat n)) => if n < bound then some n else none
  | _ => none

def items? : Json → Option (List Json)
  | .array items => some items
  | _ => none

def fields? : Json → Option Fields
  | .object fields => some fields
  | _ => none

/-! ## Equality -/

def Number.same : Number → Number → Bool
  | .int a, .int b => a == b
  | .double a, .double b => a.same b
  | _, _ => false

mutual

/-- Equality of values, with fields in the same order. -/
def same : Json → Json → Bool
  | .null, .null => true
  | .bool a, .bool b => a == b
  | .number a, .number b => a.same b
  | .text a, .text b => a == b
  | .array as, .array bs => sameItems as bs
  | .object as, .object bs => sameFields as bs
  | _, _ => false

def sameItems : List Json → List Json → Bool
  | [], [] => true
  | a :: as, b :: bs => same a b && sameItems as bs
  | _, _ => false

def sameFields : List (String × Json) → List (String × Json) → Bool
  | [], [] => true
  | (k, a) :: as, (l, b) :: bs => k == l && same a b && sameFields as bs
  | _, _ => false

end

end Json
end Testbench
