import Testbench.Text.Digit

/-!
# Escape — characters written with a backslash

- `escaped`    : a text with its escapes replaced, as bytes;
- `echoBytes`  : what `echo` writes.
-/

namespace Testbench
namespace Shell

def bytesOf (cs : List Char) : List UInt8 := (String.ofList cs).toUTF8.toList

def isOctal (c : Char) : Bool := '0' ≤ c && c ≤ '7'

def octalValue (cs : List Char) : Nat := cs.foldl (fun n c => n * 8 + Text.digitValue c) 0

/-- The byte of an escape with a letter. -/
def letterEscape? : Char → Option UInt8
  | 'a' => some 7
  | 'b' => some 8
  | 'e' => some 27
  | 'f' => some 12
  | 'n' => some 10
  | 'r' => some 13
  | 't' => some 9
  | 'v' => some 11
  | '\\' => some 92
  | _ => none

/-- An octal number in front of a text, of at most so many digits. -/
def octal (digits : Nat) (cs : List Char) : UInt8 × List Char :=
  let found := (cs.take digits).takeWhile isOctal
  (UInt8.ofNat (octalValue found), cs.drop found.length)

/-- Replace escapes. In a text that is an argument a zero comes before the digits of a number, and
`\c` ends the text. Tells whether it ended early. -/
def escaped (isArgument : Bool) : Nat → List Char → List UInt8 × Bool
  | 0, _ => ([], false)
  | _, [] => ([], false)
  | n + 1, '\\' :: c :: rest =>
    if c == 'c' && isArgument then ([], true)
    else if isOctal c then
      let (byte, after) := if isArgument && c == '0' then octal 3 rest else octal 3 (c :: rest)
      let (bytes, stop) := escaped isArgument n after
      (byte :: bytes, stop)
    else match letterEscape? c with
      | some byte =>
        let (bytes, stop) := escaped isArgument n rest
        (byte :: bytes, stop)
      | none =>
        let (bytes, stop) := escaped isArgument n rest
        (92 :: (bytesOf [c] ++ bytes), stop)
  | n + 1, c :: rest =>
    let (bytes, stop) := escaped isArgument n rest
    (bytesOf [c] ++ bytes, stop)

def newlineByte : UInt8 := 10

/-- A number in decimal digits. -/
def decimal (i : Int) : List Char :=
  match i with
  | .ofNat n => Nat.toDigits 10 n
  | .negSucc n => '-' :: Nat.toDigits 10 (n + 1)

/-- The arguments with spaces between them and a line feed behind them, unless the first is `-n`. -/
def echoBytes (arguments : List String) : List UInt8 :=
  let (newline, words) := match arguments with
    | "-n" :: rest => (false, rest)
    | words => (true, words)
  let cs := (" ".intercalate words).toList
  let (bytes, stop) := escaped true (cs.length + 1) cs
  bytes ++ if newline && !stop then [newlineByte] else []

end Shell
end Testbench
