import Testbench.Json.Value

/-!
# Printer — the text of a JSON value

- `compact` : no blanks at all;
- `pretty`  : one item a line, indented by a number of spaces per level; an empty array or object
  stays on its line.

Fields are written in their order. Of the characters only quotes, backslashes and controls are
escaped.
-/

namespace Testbench
namespace Json

/-! ## Leaves -/

def hexDigit (n : Nat) : Char :=
  if n < 10 then Char.ofNat ('0'.toNat + n) else Char.ofNat ('a'.toNat + (n - 10))

def escape (c : Char) : List Char :=
  if c == '"' then ['\\', '"']
  else if c == '\\' then ['\\', '\\']
  else if c == '\n' then ['\\', 'n']
  else if c == '\r' then ['\\', 'r']
  else if c == '\t' then ['\\', 't']
  else if c == '\x08' then ['\\', 'b']
  else if c == '\x0c' then ['\\', 'f']
  else if c.toNat < 0x20 then
    ['\\', 'u', '0', '0', hexDigit (c.toNat / 16), hexDigit (c.toNat % 16)]
  else [c]

def printText (s : String) : List Char :=
  '"' :: s.toList.flatMap escape ++ ['"']

def printInt (i : Int) : List Char :=
  if i < 0 then '-' :: Nat.toDigits 10 i.natAbs else Nat.toDigits 10 i.natAbs

def Number.print : Number → List Char
  | .int i => printInt i
  | .double x => x.render

def printBool (b : Bool) : List Char :=
  if b then ['t', 'r', 'u', 'e'] else ['f', 'a', 'l', 's', 'e']

def printNull : List Char := ['n', 'u', 'l', 'l']

/-! ## Compact -/

mutual

def compactChars : Json → List Char
  | .null => printNull
  | .bool b => printBool b
  | .number n => n.print
  | .text s => printText s
  | .array items => '[' :: compactItems items ++ [']']
  | .object fields => '\x7b' :: compactFields fields ++ ['\x7d']

def compactItems : List Json → List Char
  | [] => []
  | [j] => compactChars j
  | j :: rest => compactChars j ++ ',' :: compactItems rest

def compactFields : List (String × Json) → List Char
  | [] => []
  | [(k, j)] => printText k ++ ':' :: compactChars j
  | (k, j) :: rest => printText k ++ ':' :: compactChars j ++ ',' :: compactFields rest

end

def compact (j : Json) : String := String.ofList (compactChars j)

/-! ## Pretty -/

/-- A line break and the indentation of a level. -/
def newline (step level : Nat) : List Char := '\n' :: List.replicate (step * level) ' '

mutual

def prettyChars (step level : Nat) : Json → List Char
  | .null => printNull
  | .bool b => printBool b
  | .number n => n.print
  | .text s => printText s
  | .array [] => ['[', ']']
  | .array (j :: rest) =>
    '[' :: newline step (level + 1) ++ prettyChars step (level + 1) j
      ++ prettyItems step level rest
  | .object [] => ['\x7b', '\x7d']
  | .object ((k, j) :: rest) =>
    '\x7b' :: newline step (level + 1) ++ printText k ++ ':' :: ' ' ::
      prettyChars step (level + 1) j ++ prettyFields step level rest

/-- The items after the first, and the closing bracket. -/
def prettyItems (step level : Nat) : List Json → List Char
  | [] => newline step level ++ [']']
  | j :: rest =>
    ',' :: newline step (level + 1) ++ prettyChars step (level + 1) j
      ++ prettyItems step level rest

/-- The fields after the first, and the closing brace. -/
def prettyFields (step level : Nat) : List (String × Json) → List Char
  | [] => newline step level ++ ['\x7d']
  | (k, j) :: rest =>
    ',' :: newline step (level + 1) ++ printText k ++ ':' :: ' ' ::
      prettyChars step (level + 1) j ++ prettyFields step level rest

end

def pretty (step : Nat) (j : Json) : String := String.ofList (prettyChars step 0 j)

end Json
end Testbench
