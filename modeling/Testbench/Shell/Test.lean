import Testbench.Shell.Arithmetic
import Testbench.Files

/-!
# Test — the conditions of the `test` command

- `Condition.holds` : whether the words of a condition hold.
-/

namespace Testbench
namespace Shell

/-- Why words are no condition. -/
inductive TestError where
  | argumentExpected (op : String)
  | unexpectedOperator (word : String)
  | closingParenExpected
  | illegalNumber (word : String)
  | missingBracket
  deriving DecidableEq, Repr, Inhabited

def TestError.message : TestError → String
  | .argumentExpected op => op ++ ": argument expected"
  | .unexpectedOperator word => word ++ ": unexpected operator"
  | .closingParenExpected => "closing paren expected"
  | .illegalNumber word => "Illegal number: " ++ word
  | .missingBracket => "missing ]"

namespace Condition

/-! ## Operators -/

def compare? (op : String) (a b : Int) : Option Bool :=
  match op with
  | "-eq" => some (a == b)
  | "-ne" => some (a != b)
  | "-lt" => some (a < b)
  | "-le" => some (a ≤ b)
  | "-gt" => some (a > b)
  | "-ge" => some (a ≥ b)
  | _ => none

/-- A condition with an operator before its operand. -/
def unary? (t : FileTree) (op operand : String) : Option Bool :=
  match op with
  | "-n" => some (!operand.isEmpty)
  | "-z" => some operand.isEmpty
  | "-e" => some (t.exists? ⟨operand⟩)
  | "-f" => some (t.isFile ⟨operand⟩)
  | "-d" => some (t.isDir ⟨operand⟩)
  | "-s" => some (((t.read ⟨operand⟩).toOption.getD ByteArray.empty).size > 0)
  | "-x" => some (match t.stat ⟨operand⟩ with
    | .ok (.file data) => data.executable
    | .ok .dir => true
    | _ => false)
  | "-r" | "-w" => some (t.exists? ⟨operand⟩)
  | "-L" | "-h" => some (match t.statLink ⟨operand⟩ with
    | .ok (.link _) => true
    | _ => false)
  | "-t" => some false
  | _ => none

def integer (word : String) : Except TestError Int :=
  match Arithmetic.integer? word with
  | some i => .ok i
  | none => .error (.illegalNumber word)

/-- Which of two files is newer; one that is there is newer than one that is not. -/
def isNewer (t : FileTree) (a b : String) : Bool :=
  match t.modified ⟨a⟩, t.modified ⟨b⟩ with
  | .ok m, .ok n => m > n
  | .ok _, .error _ => true
  | _, _ => false

/-- A condition with an operator between its operands. -/
def binary? (t : FileTree) (a op b : String) : Option (Except TestError Bool) :=
  match op with
  | "=" | "==" => some (.ok (a == b))
  | "!=" => some (.ok (a != b))
  | "<" => some (.ok (a < b))
  | ">" => some (.ok (b < a))
  | "-nt" => some (.ok (isNewer t a b))
  | "-ot" => some (.ok (isNewer t b a))
  | _ =>
    if (compare? op 0 0).isNone then none
    else some do .ok ((compare? op (← integer a) (← integer b)).getD false)

def isBinary (t : FileTree) (word : String) : Bool := (binary? t "0" word "0").isSome

/-! ## Reading -/

/-- Whether the operator in front of words stands there as an operand. -/
def isOperand (t : FileTree) : List String → Bool
  | [] => true
  | [_] => false
  | word :: _ => isBinary t word

/-- A result and the words that were not looked at. -/
abbrev Reading := Except TestError (Bool × List String)

mutual

/-- Conditions of which one has to hold. -/
def anyOf (t : FileTree) : Nat → List String → Reading
  | 0, words => .ok (false, words)
  | n + 1, words => do
    let (a, rest) ← allOf t n words
    match rest with
    | "-o" :: rest => do
      let (b, rest) ← anyOf t n rest
      .ok (a || b, rest)
    | rest => .ok (a, rest)

/-- Conditions that have to hold together. -/
def allOf (t : FileTree) : Nat → List String → Reading
  | 0, words => .ok (false, words)
  | n + 1, words => do
    let (a, rest) ← negated t n words
    match rest with
    | "-a" :: rest => do
      let (b, rest) ← allOf t n rest
      .ok (a && b, rest)
    | rest => .ok (a, rest)

def negated (t : FileTree) : Nat → List String → Reading
  | 0, words => .ok (false, words)
  | n + 1, words =>
    match words with
    | "!" :: next :: rest => do
      let (a, rest) ← negated t n (next :: rest)
      .ok (!a, rest)
    | words => primary t n words

def primary (t : FileTree) : Nat → List String → Reading
  | 0, words => .ok (false, words)
  | n + 1, words =>
    match words with
    | [] => .ok (false, [])
    | "(" :: ")" :: rest => .ok (false, rest)
    | "(" :: next :: rest => do
      let (a, rest) ← anyOf t n (next :: rest)
      match rest with
      | ")" :: rest => .ok (a, rest)
      | _ => .error .closingParenExpected
    | op :: rest =>
      match unary? t op (rest.headD "") with
      | some a =>
        if isOperand t rest then operand t op rest
        else .ok (a, rest.drop 1)
      | none => operand t op rest

/-- A word, or two words with an operator between them. -/
def operand (t : FileTree) (a : String) : List String → Reading
  | [op] => if isBinary t op then .error (.argumentExpected op) else .ok (!a.isEmpty, [op])
  | op :: b :: rest => match binary? t a op b with
    | some result => do .ok (← result, rest)
    | none => .ok (!a.isEmpty, op :: b :: rest)
  | [] => .ok (!a.isEmpty, [])

end

/-- All words as one condition. A word too many is told by the one before it. -/
def whole (t : FileTree) (words : List String) : Except TestError Bool := do
  let (a, rest) ← anyOf t (4 * words.length + 4) words
  if rest.isEmpty then .ok a
  else .error (.unexpectedOperator ((words[words.length - rest.length - 1]?).getD ""))

/-- Whether a condition holds. Up to four words are read by their number first. -/
def holds (t : FileTree) : List String → Except TestError Bool
  | [] => .ok false
  | ["!", a] => .ok a.isEmpty
  | [a, op, b] =>
    match binary? t a op b with
    | some result => result
    | none =>
      if a == "(" && b == ")" then .ok (!op.isEmpty)
      else if a == "!" then do .ok (!(← holds t [op, b]))
      else whole t [a, op, b]
  | [a, b, c, d] =>
    if a == "(" && d == ")" then holds t [b, c]
    else if a == "!" then do .ok (!(← holds t [b, c, d]))
    else whole t [a, b, c, d]
  | words => whole t words

end Condition
end Shell
end Testbench
