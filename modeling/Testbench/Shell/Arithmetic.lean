import Testbench.Shell.Word
import Testbench.Text.Digit

/-!
# Arithmetic — the sums of a shell

Numbers have 64 bits and wrap around. A name stands for the number it holds, or for zero.

- `Formula`             : sums;
- `Arithmetic.read`     : from a text;
- `Arithmetic.evaluate` : what a sum comes to, and the names that it sets;
- `Arithmetic.compute`  : from a text to a number.
-/

namespace Testbench
namespace Shell

inductive BinaryOperator where
  | multiply | divide | remainder | plus | minus | shiftLeft | shiftRight
  | less | lessEqual | greater | greaterEqual | equal | unequal
  | bitAnd | bitXor | bitOr | and | or
  deriving DecidableEq, Repr, Inhabited

inductive UnaryOperator where
  | plus | minus | not | complement
  deriving DecidableEq, Repr, Inhabited

inductive Formula where
  | number (i : Int)
  | name (s : String)
  | unary (op : UnaryOperator) (a : Formula)
  | binary (op : BinaryOperator) (a b : Formula)
  | choose (condition yes no : Formula)
  /-- Set a name, after combining the value with what it held. -/
  | assign (s : String) (op : Option BinaryOperator) (a : Formula)
  deriving Repr, Inhabited

namespace Arithmetic

/-! ## Numbers -/

def wrap (i : Int) : Int := Int.bmod i (Nat.pow 2 64)

def digitOf? (c : Char) : Option Nat :=
  if c.isDigit then some (c.toNat - '0'.toNat)
  else if 'a' ≤ c && c ≤ 'f' then some (c.toNat - 'a'.toNat + 10)
  else if 'A' ≤ c && c ≤ 'F' then some (c.toNat - 'A'.toNat + 10)
  else none

/-- Digits of a base at the start of a text, and what follows them. -/
def digits (base : Nat) (cs : List Char) : Nat × List Char :=
  let isDigit (c : Char) : Bool := (digitOf? c).any (· < base)
  let (found, rest) := cs.span isDigit
  (found.foldl (fun n c => n * base + (digitOf? c).getD 0) 0, rest)

/-- A number at the start of a text, whose start tells its base. -/
def number (cs : List Char) : Nat × List Char :=
  match cs with
  | '0' :: x :: c :: rest =>
    if (x == 'x' || x == 'X') && ((digitOf? c).isSome) then digits 16 (c :: rest)
    else digits 8 cs
  | '0' :: _ => digits 8 cs
  | _ => digits 10 cs

/-- A whole text as a number, with blanks around it and a sign before it. -/
def integer? (s : String) : Option Int :=
  let isBlank (c : Char) : Bool := isSpace c || c == '\n'
  let cs := ((s.toList.dropWhile isBlank).reverse.dropWhile isBlank).reverse
  let (negative, cs) := match cs with
    | '-' :: rest => (true, rest)
    | '+' :: rest => (false, rest)
    | _ => (false, cs)
  match cs, number cs with
  | c :: _, (n, []) => if c.isDigit then some (wrap (if negative then -n else n)) else none
  | _, _ => none

/-! ## Tokens -/

inductive Lexeme where
  | number (n : Nat)
  | name (s : String)
  | sign (s : String)
  deriving DecidableEq, Repr, Inhabited

/-- Signs, the longest first. -/
def signTexts : List String :=
  ["<<=", ">>=", "<<", ">>", "<=", ">=", "==", "!=", "&&", "||", "+=", "-=", "*=", "/=", "%=", "&=",
    "^=", "|=", "+", "-", "*", "/", "%", "<", ">", "=", "&", "^", "|", "!", "~", "?", ":", "(", ")"]

def lexemes? : Nat → List Char → Option (List Lexeme)
  | 0, _ => none
  | _, [] => some []
  | n + 1, c :: rest =>
    if isSpace c || c == '\n' then lexemes? n rest
    else if c.isDigit then
      let (value, after) := number (c :: rest)
      (lexemes? n after).map (.number value :: ·)
    else if isNameStart c then
      let (name, after) := (c :: rest).span isNameChar
      (lexemes? n after).map (.name (String.ofList name) :: ·)
    else match signTexts.find? fun s => s.toList.isPrefixOf (c :: rest) with
      | some s => (lexemes? n ((c :: rest).drop s.length)).map (.sign s :: ·)
      | none => none

/-! ## Reading -/

def binaryOf? : String → Option BinaryOperator
  | "*" => some .multiply
  | "/" => some .divide
  | "%" => some .remainder
  | "+" => some .plus
  | "-" => some .minus
  | "<<" => some .shiftLeft
  | ">>" => some .shiftRight
  | "<" => some .less
  | "<=" => some .lessEqual
  | ">" => some .greater
  | ">=" => some .greaterEqual
  | "==" => some .equal
  | "!=" => some .unequal
  | "&" => some .bitAnd
  | "^" => some .bitXor
  | "|" => some .bitOr
  | "&&" => some .and
  | "||" => some .or
  | _ => none

/-- How tightly an operator binds. -/
def strength : BinaryOperator → Nat
  | .multiply | .divide | .remainder => 10
  | .plus | .minus => 9
  | .shiftLeft | .shiftRight => 8
  | .less | .lessEqual | .greater | .greaterEqual => 7
  | .equal | .unequal => 6
  | .bitAnd => 5
  | .bitXor => 4
  | .bitOr => 3
  | .and => 2
  | .or => 1

def unaryOf? : String → Option UnaryOperator
  | "+" => some .plus
  | "-" => some .minus
  | "!" => some .not
  | "~" => some .complement
  | _ => none

/-- The operator of an assignment sign, if it has one. -/
def assignmentOf? (s : String) : Option (Option BinaryOperator) :=
  if s == "=" then some none
  else match s.toList.reverse with
    | '=' :: rest =>
      ((binaryOf? (String.ofList rest.reverse)).filter fun op => strength op != 7).map some
    | _ => none

/-- What keeps a text from being a sum. -/
inductive Flaw where
  | expectingPrimary
  | expectingEnd
  | expectingParen
  | expectingColon
  deriving DecidableEq, Repr, Inhabited

abbrev Reading := Except Flaw (Formula × List Lexeme)

mutual

def readAssignment : Nat → List Lexeme → Reading
  | 0, _ => .error .expectingPrimary
  | n + 1, ts =>
    match ts with
    | .name s :: .sign sign :: rest =>
      match assignmentOf? sign with
      | some op => do
        let (a, rest) ← readAssignment n rest
        .ok (.assign s op a, rest)
      | none => readChoice n ts
    | _ => readChoice n ts

def readChoice : Nat → List Lexeme → Reading
  | 0, _ => .error .expectingPrimary
  | n + 1, ts => do
    let (condition, rest) ← readBinary n 1 ts
    match rest with
    | .sign "?" :: rest => do
      let (yes, rest) ← readAssignment n rest
      match rest with
      | .sign ":" :: rest => do
        let (no, rest) ← readChoice n rest
        .ok (.choose condition yes no, rest)
      | _ => .error .expectingColon
    | _ => .ok (condition, rest)

/-- Operators that bind at least so tightly. -/
def readBinary : Nat → Nat → List Lexeme → Reading
  | 0, _, _ => .error .expectingPrimary
  | n + 1, least, ts => do
    let (left, rest) ← readUnary n ts
    readMore n least left rest

def readMore : Nat → Nat → Formula → List Lexeme → Reading
  | 0, _, _, _ => .error .expectingPrimary
  | n + 1, least, left, ts =>
    match ts with
    | .sign s :: rest =>
      match (binaryOf? s).filter fun op => least ≤ strength op with
      | some op => do
        let (right, rest) ← readBinary n (strength op + 1) rest
        readMore n least (.binary op left right) rest
      | none => .ok (left, ts)
    | _ => .ok (left, ts)

def readUnary : Nat → List Lexeme → Reading
  | 0, _ => .error .expectingPrimary
  | n + 1, ts =>
    match ts with
    | .number i :: rest => .ok (.number i, rest)
    | .name s :: rest => .ok (.name s, rest)
    | .sign "(" :: rest => do
      let (a, rest) ← readAssignment n rest
      match rest with
      | .sign ")" :: rest => .ok (a, rest)
      | _ => .error .expectingParen
    | .sign s :: rest =>
      match unaryOf? s with
      | some op => do
        let (a, rest) ← readUnary n rest
        .ok (.unary op a, rest)
      | none => .error .expectingPrimary
    | [] => .error .expectingPrimary

end

/-- A whole text as a sum. -/
def read (cs : List Char) : Except Flaw Formula := do
  match lexemes? (cs.length + 1) cs with
  | none => .error .expectingEnd
  | some ts =>
    let (a, rest) ← readAssignment (16 * ts.length + 16) ts
    if rest.isEmpty then .ok a else .error .expectingEnd

/-! ## Evaluating -/

inductive Mishap where
  | divisionByZero
  | illegalNumber (s : String)
  deriving DecidableEq, Repr, Inhabited

def truth (b : Bool) : Int := if b then 1 else 0

/-- The bits of a number as a natural number. -/
def bits (i : Int) : Nat := (i % (Nat.pow 2 64 : Nat)).toNat

def apply (op : BinaryOperator) (a b : Int) : Except Mishap Int :=
  match op with
  | .multiply => .ok (wrap (a * b))
  | .divide => if b == 0 then .error .divisionByZero else .ok (wrap (a.tdiv b))
  | .remainder => if b == 0 then .error .divisionByZero else .ok (wrap (a.tmod b))
  | .plus => .ok (wrap (a + b))
  | .minus => .ok (wrap (a - b))
  | .shiftLeft => .ok (wrap (a * (Nat.pow 2 (bits b % 64) : Nat)))
  | .shiftRight => .ok (a.fdiv (Nat.pow 2 (bits b % 64) : Nat))
  | .less => .ok (truth (a < b))
  | .lessEqual => .ok (truth (a ≤ b))
  | .greater => .ok (truth (a > b))
  | .greaterEqual => .ok (truth (a ≥ b))
  | .equal => .ok (truth (a == b))
  | .unequal => .ok (truth (a != b))
  | .bitAnd => .ok (wrap (bits a &&& bits b))
  | .bitXor => .ok (wrap (bits a ^^^ bits b))
  | .bitOr => .ok (wrap (bits a ||| bits b))
  | .and => .ok (truth (a != 0 && b != 0))
  | .or => .ok (truth (a != 0 || b != 0))

/-- Names that were set, the latest first. -/
abbrev Bindings := List (String × Int)

/-- The number that a name holds. -/
def held (outer : String → String) (set : Bindings) (s : String) : Except Mishap Int :=
  match (set.find? fun entry => entry.1 == s).map (·.2) with
  | some i => .ok i
  | none =>
    let text := outer s
    if text.isEmpty then .ok 0
    else match integer? text with
      | some i => .ok i
      | none => .error (.illegalNumber text)

/-- What a sum comes to. `outer` tells what names held before. -/
def evaluate (outer : String → String) : Formula → Bindings → Except Mishap (Int × Bindings)
  | .number i, set => .ok (wrap i, set)
  | .name s, set => do .ok (← held outer set s, set)
  | .unary op a, set => do
    let (i, set) ← evaluate outer a set
    .ok (match op with
      | .plus => i
      | .minus => wrap (-i)
      | .not => truth (i == 0)
      | .complement => wrap (-i - 1), set)
  | .binary .and a b, set => do
    let (i, set) ← evaluate outer a set
    if i == 0 then .ok (0, set)
    else
      let (j, set) ← evaluate outer b set
      .ok (truth (j != 0), set)
  | .binary .or a b, set => do
    let (i, set) ← evaluate outer a set
    if i != 0 then .ok (1, set)
    else
      let (j, set) ← evaluate outer b set
      .ok (truth (j != 0), set)
  | .binary op a b, set => do
    let (i, set) ← evaluate outer a set
    let (j, set) ← evaluate outer b set
    .ok (← apply op i j, set)
  | .choose condition yes no, set => do
    let (i, set) ← evaluate outer condition set
    if i != 0 then evaluate outer yes set else evaluate outer no set
  | .assign s op a, set => do
    let (i, set) ← evaluate outer a set
    let value ← match op with
      | none => .ok i
      | some op => do apply op (← held outer set s) i
    .ok (value, (s, value) :: set)

def Flaw.message : Flaw → String
  | .expectingPrimary => "expecting primary"
  | .expectingEnd => "expecting EOF"
  | .expectingParen => "expecting ')'"
  | .expectingColon => "expecting ':'"

/-- What the text of a sum comes to, or why it comes to nothing. -/
def compute (outer : String → String) (cs : List Char) : Except String (Int × Bindings) :=
  let told (what : String) : String :=
    "arithmetic expression: " ++ what ++ ": \"" ++ String.ofList cs ++ "\""
  match read cs with
  | .error flaw => .error (told flaw.message)
  | .ok sum => match evaluate outer sum [] with
    | .ok result => .ok result
    | .error .divisionByZero => .error (told "division by zero")
    | .error (.illegalNumber s) => .error ("Illegal number: " ++ s)

end Arithmetic
end Shell
end Testbench
