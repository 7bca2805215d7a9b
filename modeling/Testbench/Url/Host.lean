import Testbench.Url.Name
import Testbench.Text.Split
import Testbench.Json.Printer

/-!
# Host — the host of a URL

- `Host.parse?`       : the host of a scheme that is known to name hosts, as it is written out;
- `Host.parseOpaque?` : the host of any other scheme;
- `ipv4?`, `ipv6?`    : addresses.
-/

namespace Testbench
namespace Url

/-! ## IPv4 -/

def isHexDigit (c : Char) : Bool := (Json.hexDigit (c.toNat - '0'.toNat) == c && c.isDigit) ||
  ('a' ≤ c && c ≤ 'f') || ('A' ≤ c && c ≤ 'F')

def hexValue (c : Char) : Nat :=
  if c.isDigit then c.toNat - '0'.toNat
  else if 'a' ≤ c && c ≤ 'f' then c.toNat - 'a'.toNat + 10
  else c.toNat - 'A'.toNat + 10

def radixValue (radix : Nat) (cs : List Char) : Nat :=
  cs.foldl (fun n c => n * radix + hexValue c) 0

/-- A part of an IPv4 address: decimal, octal after `0`, or hexadecimal after `0x`. -/
def ipv4Number? (cs : List Char) : Option Nat :=
  match cs with
  | [] => none
  | '0' :: 'x' :: rest | '0' :: 'X' :: rest =>
    if rest.all isHexDigit then some (radixValue 16 rest) else none
  | '0' :: c :: rest =>
    if (c :: rest).all fun c => '0' ≤ c && c ≤ '7' then some (radixValue 8 (c :: rest)) else none
  | _ => if cs.all Char.isDigit then some (radixValue 10 cs) else none

/-- The parts of a dotted name, without an empty one at the end. -/
def dottedParts (cs : List Char) : List (List Char) :=
  match (Text.splitOn '.' cs).reverse with
  | [] :: rest => rest.reverse
  | _ => Text.splitOn '.' cs

/-- Whether a name has to be an IPv4 address. -/
def endsInNumber (cs : List Char) : Bool :=
  match (dottedParts cs).getLast? with
  | none => false
  | some last => (!last.isEmpty && last.all Char.isDigit) || (ipv4Number? last).isSome

/-- The address as one number. -/
def ipv4? (cs : List Char) : Option Nat := do
  let parts := dottedParts cs
  if parts.length > 4 then none
  else
    let numbers ← parts.mapM ipv4Number?
    let last ← numbers.getLast?
    let front := numbers.dropLast
    if numbers.any (· ≥ Nat.pow 2 32) || front.any (· > 255) ||
        last ≥ Nat.pow 256 (4 - front.length) then none
    else some (front.zipIdx.foldl (fun sum (n, i) => sum + n * Nat.pow 256 (3 - i)) last)

def decimal (n : Nat) : List Char := Nat.toDigits 10 n

def renderIpv4 (n : Nat) : List Char :=
  Text.joinWith '.' [decimal (n / Nat.pow 2 24 % 256), decimal (n / Nat.pow 2 16 % 256),
    decimal (n / Nat.pow 2 8 % 256), decimal (n % 256)]

/-! ## IPv6 -/

/-- One group of up to four hexadecimal digits. -/
def ipv6Group? (cs : List Char) : Option Nat :=
  if cs.isEmpty || cs.length > 4 || !cs.all isHexDigit then none else some (radixValue 16 cs)

/-- A decimal byte without a leading zero. -/
def ipv4Byte? (cs : List Char) : Option Nat :=
  match cs with
  | [] => none
  | ['0'] => some 0
  | '0' :: _ => none
  | _ => if cs.all Char.isDigit && cs.length ≤ 3 && radixValue 10 cs ≤ 255 then
      some (radixValue 10 cs) else none

/-- Two groups written as an IPv4 address. -/
def ipv6Tail? (cs : List Char) : Option (List Nat) := do
  match ← (Text.splitOn '.' cs).mapM ipv4Byte? with
  | [a, b, c, d] => some [a * 256 + b, c * 256 + d]
  | _ => none

/-- Groups between colons; the last may be an IPv4 address. -/
def ipv6Groups? : List (List Char) → Option (List Nat)
  | [] => some []
  | [last] => if last.contains '.' then ipv6Tail? last else (ipv6Group? last).map fun g => [g]
  | g :: rest => do
    let n ← ipv6Group? g
    let ns ← ipv6Groups? rest
    some (n :: ns)

/-- Groups of a part that may be empty. -/
def ipv6Side? (cs : List Char) : Option (List Nat) :=
  if cs.isEmpty then some [] else ipv6Groups? (Text.splitOn ':' cs)

/-- The parts around the first double colon. -/
def splitDoubleColon? : List Char → Option (List Char × List Char)
  | ':' :: ':' :: rest => some ([], rest)
  | c :: rest => (splitDoubleColon? rest).map fun (before, after) => (c :: before, after)
  | [] => none

/-- The eight groups of an address. -/
def ipv6? (cs : List Char) : Option (List Nat) := do
  match splitDoubleColon? cs with
  | some (before, after) =>
    let left ← if before.contains '.' then none else ipv6Side? before
    let right ← ipv6Side? after
    if left.length + right.length ≤ 7 then
      some (left ++ List.replicate (8 - left.length - right.length) 0 ++ right)
    else none
  | none =>
    let groups ← ipv6Side? cs
    if groups.length == 8 then some groups else none

/-- Length of the run of zeros at the start. -/
def zeroRun (groups : List Nat) : Nat := (groups.takeWhile (· == 0)).length

/-- Start and length of the first longest run of zeros. -/
def longestZeroRun (groups : List Nat) : Nat × Nat :=
  (List.range groups.length).foldl
    (fun best i => if zeroRun (groups.drop i) > best.2 then (i, zeroRun (groups.drop i)) else best)
    (0, 0)

def renderGroups (groups : List Nat) : List Char :=
  Text.joinWith ':' (groups.map (Nat.toDigits 16))

def renderIpv6 (groups : List Nat) : List Char :=
  let (start, count) := longestZeroRun groups
  let body :=
    if count < 2 then renderGroups groups
    else renderGroups (groups.take start) ++ [':', ':'] ++
      renderGroups (groups.drop (start + count))
  '[' :: body ++ [']']

/-! ## Hosts -/

/-- Replace each `%` and two hexadecimal digits by their byte. -/
def percentDecode : List UInt8 → List UInt8
  | a :: b :: c :: rest =>
    let hi := Char.ofNat b.toNat
    let lo := Char.ofNat c.toNat
    if a == 0x25 && isHexDigit hi && isHexDigit lo then
      UInt8.ofNat (hexValue hi * 16 + hexValue lo) :: percentDecode rest
    else a :: percentDecode (b :: c :: rest)
  | rest => rest

def inBrackets? (cs : List Char) : Option (List Char) :=
  match cs with
  | '[' :: rest => if rest.getLast? == some ']' then some rest.dropLast else none
  | _ => none

def bracketed? (cs : List Char) : Option (List Char) := do
  some (renderIpv6 (← ipv6? (← inBrackets? cs)))

/-- The host as it is written out. -/
def parseHost? (cs : List Char) : Option (List Char) :=
  if cs.head? == some '[' then bracketed? cs
  else do
    let bytes := percentDecode (String.ofList cs).toUTF8.toList
    let text ← String.fromUTF8? (ByteArray.mk bytes.toArray)
    let name ← nameToAscii? text.toList
    if name.isEmpty then none
    else if endsInNumber name then (ipv4? name).map renderIpv4
    else some name

def isForbiddenInOpaque (c : Char) : Bool :=
  ['\x00', '\t', '\n', '\r', ' ', '#', '/', ':', '<', '>', '?', '@', '[', '\\', ']', '^',
    '|'].contains c

def percentEncode (b : UInt8) : List Char :=
  let upper (n : Nat) : Char := (Json.hexDigit n).toUpper
  ['%', upper (b.toNat / 16), upper (b.toNat % 16)]

/-- A character outside the printable part of ASCII as the codes of its bytes. -/
def encodeControl (c : Char) : List Char :=
  if c.toNat < 0x20 || c.toNat ≥ 0x7F then
    (String.singleton c).toUTF8.toList.flatMap percentEncode
  else [c]

/-- The host of a scheme that gives hosts no meaning. -/
def parseOpaqueHost? (cs : List Char) : Option (List Char) :=
  if cs.head? == some '[' then bracketed? cs
  else if cs.any isForbiddenInOpaque then none
  else some (cs.flatMap encodeControl)

end Url
end Testbench
