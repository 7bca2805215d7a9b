import Testbench.Shell.Escape
import Testbench.Shell.Arithmetic

/-!
# Format — what `printf` writes

A format is written again as long as arguments are left.

- `Conversion`    : one place of a format that takes an argument;
- `Formatted`     : what was written, and what is wrong with the arguments;
- `Format.write`  : a format with arguments.
-/

namespace Testbench
namespace Shell

structure Conversion where
  flags : List Char
  width : Nat
  precision : Option Nat
  kind : Char
  deriving DecidableEq, Repr, Inhabited

structure Formatted where
  bytes : List UInt8
  complaints : List String
  /-- Whether writing ended early. -/
  stopped : Bool
  deriving DecidableEq, Repr, Inhabited

/-- One after the other. -/
def Formatted.append (a b : Formatted) : Formatted :=
  ⟨a.bytes ++ b.bytes, a.complaints ++ b.complaints, b.stopped⟩

namespace Format

def only (bytes : List UInt8) : Formatted := ⟨bytes, [], false⟩

/-! ## Conversions -/

/-- The conversion behind a percent sign, and what follows it. -/
def conversion? (cs : List Char) : Option (Conversion × List Char) :=
  let (flags, cs) := cs.span fun c => "-+ #0".contains c
  let (width, cs) := cs.span Char.isDigit
  let (precision, cs) := match cs with
    | '.' :: rest =>
      let (digits, rest) := rest.span Char.isDigit
      (some (Text.digitsValue 0 digits), rest)
    | _ => (none, cs)
  match cs with
  | kind :: rest => some (⟨flags, Text.digitsValue 0 width, precision, kind⟩, rest)
  | [] => none

/-- The number at the start of an argument, and what is wrong with it. -/
def numberOf (argument : String) : Int × List String :=
  match argument.toList with
  | [] => (0, [])
  | '\'' :: c :: _ | '"' :: c :: _ => (c.toNat, [])
  | cs =>
    let (negative, rest) := match cs with
      | '-' :: rest => (true, rest)
      | '+' :: rest => (false, rest)
      | _ => (false, cs)
    let (n, after) := Arithmetic.number rest
    let i : Int := if negative then -n else n
    if !(rest.head?.any Char.isDigit) then (0, [argument ++ ": expected numeric value"])
    else (i, if after.isEmpty then [] else [argument ++ ": not completely converted"])

def digitsIn (base : Nat) (upper : Bool) (n : Nat) : List Char :=
  (Nat.toDigits base n).map fun c => if upper then c.toUpper else c

/-- Fill digits up to the precision. -/
def atLeast (digits : Nat) (cs : List Char) : List Char :=
  List.replicate (digits - cs.length) '0' ++ cs

/-- Fill up to the width: behind the text, before it, or with zeros between sign and digits. -/
def fill (c : Conversion) (zeros : Bool) (sign digits : List Char) : List Char :=
  let missing := c.width - (sign.length + digits.length)
  if c.flags.contains '-' then sign ++ digits ++ List.replicate missing ' '
  else if zeros then sign ++ List.replicate missing '0' ++ digits
  else List.replicate missing ' ' ++ sign ++ digits

def integer (c : Conversion) (i : Int) : List Char :=
  let unsigned := Arithmetic.bits i
  let isZero := i == 0
  let (sign, digits) : List Char × List Char := match c.kind with
    | 'o' => ([], Nat.toDigits 8 unsigned)
    | 'u' => ([], Nat.toDigits 10 unsigned)
    | 'x' | 'X' =>
      (if c.flags.contains '#' && !isZero then ['0', c.kind] else [],
        digitsIn 16 (c.kind == 'X') unsigned)
    | _ => (if i < 0 then ['-'] else if c.flags.contains '+' then ['+']
        else if c.flags.contains ' ' then [' '] else [], Nat.toDigits 10 i.natAbs)
  fill c (c.flags.contains '0' && c.precision.isNone) sign (atLeast (c.precision.getD 1) digits)

/-- One argument in the place of a conversion. -/
def convert (c : Conversion) (argument : String) : Formatted :=
  let text (cs : List Char) : List UInt8 := bytesOf (fill c false [] cs)
  match c.kind with
  | 's' => only (text (match c.precision with
    | some n => argument.toList.take n
    | none => argument.toList))
  | 'c' => only (text (argument.toList.take 1))
  | 'b' =>
    let (bytes, stopped) := escaped true (argument.length + 1) argument.toList
    ⟨bytes, [], stopped⟩
  | 'd' | 'i' | 'o' | 'u' | 'x' | 'X' =>
    let (i, complaints) := numberOf argument
    ⟨bytesOf (integer c i), complaints, false⟩
  | kind => ⟨[], [String.ofList ['%', kind] ++ ": invalid directive"], true⟩

/-! ## Writing -/

/-- Write a format once; tells which arguments are left. -/
def once : Nat → List Char → List String → Formatted × List String
  | 0, _, arguments => (only [], arguments)
  | _, [], arguments => (only [], arguments)
  | n + 1, '%' :: '%' :: rest, arguments =>
    let (more, arguments) := once n rest arguments
    ((only [37]).append more, arguments)
  | n + 1, '%' :: rest, arguments =>
    match conversion? rest with
    | none => (⟨[], ["%: invalid directive"], true⟩, arguments)
    | some (c, rest) =>
      let written := convert c (arguments.headD "")
      if written.stopped then (written, [])
      else
        let (more, arguments) := once n rest arguments.tail
        (written.append more, arguments)
  | n + 1, cs, arguments =>
    let (plain, rest) := (cs.drop 1).span (· != '%')
    let part := cs.take 1 ++ plain
    let (bytes, stopped) := escaped false (part.length + 1) part
    if stopped then (⟨bytes, [], true⟩, [])
    else
      let (more, arguments) := once n rest arguments
      ((only bytes).append more, arguments)

/-- Write a format again as long as arguments are left. -/
def again : Nat → List Char → List String → Formatted
  | 0, _, _ => only []
  | n + 1, format, arguments =>
    let (written, left) := once (format.length + 1) format arguments
    if written.stopped || left.isEmpty || left.length == arguments.length then written
    else written.append (again n format left)

/-- What a format and its arguments come to. -/
def write : List String → Formatted
  | [] => ⟨[], ["usage: printf format [arg ...]"], true⟩
  | format :: arguments => again (arguments.length + 1) format.toList arguments

end Format
end Shell
end Testbench
