import Testbench.Url.Host

/-!
# Authority — host and port of a URL

- `authority?` : host and port of a text, `none` if the text is not a URL;
- `Authority.text?` : both as one writes them, without the port that the scheme implies.
-/

namespace Testbench
namespace Url

structure Authority where
  host : Option (List Char)
  port : Option Nat
  deriving Repr

/-- How the text after a scheme is read. -/
inductive Scheme where
  | special (port : Nat)
  | file
  | other

def schemeOf (name : List Char) : Scheme :=
  match String.ofList name with
  | "http" | "ws" => .special 80
  | "https" | "wss" => .special 443
  | "ftp" => .special 21
  | "file" => .file
  | _ => .other

def isSchemeChar (c : Char) : Bool := c.isAlphanum || c == '+' || c == '-' || c == '.'

/-- The scheme in small letters and what follows its colon. -/
def splitScheme? (cs : List Char) : Option (List Char × List Char) :=
  match cs with
  | c :: _ =>
    if c.isAlpha then
      match cs.dropWhile isSchemeChar with
      | ':' :: rest => some ((cs.takeWhile isSchemeChar).map Char.toLower, rest)
      | _ => none
    else none
  | [] => none

def isSlash (c : Char) : Bool := c == '/' || c == '\\'

/-- Whether a character ends the authority. -/
def endsAuthority (special : Bool) (c : Char) : Bool :=
  c == '/' || c == '?' || c == '#' || (special && c == '\\')

/-- The host part: up to a colon outside brackets. -/
def takeHost (inside : Bool) : List Char → List Char × List Char
  | [] => ([], [])
  | c :: rest =>
    if c == ':' && !inside then ([], c :: rest)
    else
      let inside := if c == '[' then true else if c == ']' then false else inside
      let (host, after) := takeHost inside rest
      (c :: host, after)

/-- The port after a colon: digits only, at most 65535. -/
def port? (default : Option Nat) (cs : List Char) : Option (Option Nat) :=
  if !cs.all Char.isDigit then none
  else if cs.isEmpty then some none
  else
    let n := radixValue 10 cs
    if n > 65535 then none else some (if some n == default then none else some n)

/-- What stands after the last `@`, with what stands before it. -/
def splitUser (cs : List Char) : Option (List Char) × List Char :=
  match Text.splitLast? '@' cs with
  | some (user, rest) => (some user, rest)
  | none => (none, cs)

/-- Host and port after two slashes. -/
def readAuthority? (special : Option Nat) (cs : List Char) : Option Authority := do
  let whole := cs.takeWhile fun c => !endsAuthority special.isSome c
  let more := whole.length < cs.length
  let (user, rest) := splitUser whole
  let (host, after) := takeHost false rest
  if user == some [] && rest.isEmpty && more then none
  else if host.isEmpty && (special.isSome || !after.isEmpty) then none
  else
    let name ← if special.isSome then parseHost? host else parseOpaqueHost? host
    let port ← match after with
      | _ :: digits => port? special digits
      | [] => some none
    some ⟨if name.isEmpty then none else some name, port⟩

def isDriveLetter (cs : List Char) : Bool :=
  match cs with
  | [c, d] => c.isAlpha && (d == ':' || d == '|')
  | _ => false

/-- The host of a file, which may be left out. -/
def readFileHost? (cs : List Char) : Option Authority :=
  let host := cs.takeWhile fun c => !endsAuthority true c
  if host.isEmpty || isDriveLetter host then some ⟨none, none⟩
  else (parseHost? host).map fun name =>
    ⟨if String.ofList name == "localhost" then none else some name, none⟩

/-- A text without blanks and controls at its ends and without tabs and line ends inside. -/
def clean (s : String) : List Char :=
  let isEdge (c : Char) : Bool := c.toNat ≤ 0x20
  let trimmed := ((s.toList.dropWhile isEdge).reverse.dropWhile isEdge).reverse
  trimmed.filter fun c => !(c == '\t' || c == '\n' || c == '\r')

/-- Host and port of a URL. -/
def authority? (s : String) : Option Authority := do
  let (scheme, rest) ← splitScheme? (clean s)
  match schemeOf scheme with
  | .special port => readAuthority? (some port) (rest.dropWhile isSlash)
  | .file => match rest with
    | a :: b :: after =>
      if isSlash a && isSlash b then readFileHost? after else some ⟨none, none⟩
    | _ => some ⟨none, none⟩
  | .other => match rest with
    | '/' :: '/' :: after => readAuthority? none after
    | _ => some ⟨none, none⟩

/-- Host and port of a URL that has a host. -/
def hostAndPort? (s : String) : Option String := do
  let a ← authority? s
  let host ← a.host
  match a.port with
  | some port => some (String.ofList (host ++ ':' :: Nat.toDigits 10 port))
  | none => some (String.ofList host)

end Url
end Testbench
