import Testbench.Json.Numeral

/-!
# Draft — JSON as it stands in a text

A draft keeps what a value loses: repeated keys, numerals out of range, and escapes that name half
of a surrogate pair. A part of a text that nobody asks for needs to be a draft only.

- `Draft`       : the form of a JSON text;
- `Draft.read?` : the draft of a whole text;
- `Draft.value?`: its value, within a number of levels of nesting;
- `Json.read?`  : the value of a whole text.
-/

namespace Testbench
namespace Json

/-- JSON as spelled. A text is `none` if one of its escapes names no character. -/
inductive Draft where
  | null
  | bool (value : Bool)
  | numeral (value : Numeral)
  | text (value : Option String)
  | array (items : List Draft)
  | object (fields : List (Option String × Draft))
  deriving Repr, Inhabited

namespace Draft

/-! ## Characters -/

def isSpace (c : Char) : Bool := c == ' ' || c == '\n' || c == '\t' || c == '\r'

def skipSpace (cs : List Char) : List Char := cs.dropWhile isSpace

def hexValue? (c : Char) : Option Nat :=
  if '0' ≤ c && c ≤ '9' then some (c.toNat - '0'.toNat)
  else if 'a' ≤ c && c ≤ 'f' then some (c.toNat - 'a'.toNat + 10)
  else if 'A' ≤ c && c ≤ 'F' then some (c.toNat - 'A'.toNat + 10)
  else none

/-- Four hexadecimal digits. -/
def readHex? : List Char → Option (Nat × List Char)
  | a :: b :: c :: d :: rest => do
    let a ← hexValue? a
    let b ← hexValue? b
    let c ← hexValue? c
    let d ← hexValue? d
    some (((a * 16 + b) * 16 + c) * 16 + d, rest)
  | _ => none

def isHighSurrogate (n : Nat) : Bool := 0xD800 ≤ n && n ≤ 0xDBFF

def isLowSurrogate (n : Nat) : Bool := 0xDC00 ≤ n && n ≤ 0xDFFF

/-- The character named by one backslash and a letter. -/
def plainEscape? : Char → Option Char
  | '"' => some '"'
  | '\\' => some '\\'
  | '/' => some '/'
  | 'b' => some '\x08'
  | 'f' => some '\x0c'
  | 'n' => some '\n'
  | 'r' => some '\r'
  | 't' => some '\t'
  | _ => none

/-! ## Texts -/

/-- One code unit or character of a text. -/
inductive Piece where
  | char (c : Char)
  | unit (n : Nat)
  deriving Repr, Inhabited

/-- The pieces up to the closing quote. -/
def readPieces : Nat → List Char → Option (List Piece × List Char)
  | 0, _ => none
  | _, [] => none
  | fuel + 1, c :: rest =>
    if c == '"' then some ([], rest)
    else if c == '\\' then
      match rest with
      | [] => none
      | e :: rest =>
        if e == 'u' then do
          let (n, rest) ← readHex? rest
          let (pieces, rest) ← readPieces fuel rest
          some (.unit n :: pieces, rest)
        else do
          let c ← plainEscape? e
          let (pieces, rest) ← readPieces fuel rest
          some (.char c :: pieces, rest)
    else if c.toNat < 0x20 then none
    else do
      let (pieces, rest) ← readPieces fuel rest
      some (.char c :: pieces, rest)

/-- The characters of the pieces; the units of a pair make one character. -/
def joinPieces? : List Piece → Option (List Char)
  | [] => some []
  | .char c :: rest => (joinPieces? rest).map (c :: ·)
  | .unit n :: .unit m :: rest =>
    if isHighSurrogate n then
      if isLowSurrogate m then
        (joinPieces? rest).map
          (Char.ofNat (0x10000 + (n - 0xD800) * 0x400 + (m - 0xDC00)) :: ·)
      else none
    else if isLowSurrogate n then none
    else (joinPieces? (.unit m :: rest)).map (Char.ofNat n :: ·)
  | .unit n :: rest =>
    if isHighSurrogate n || isLowSurrogate n then none
    else (joinPieces? rest).map (Char.ofNat n :: ·)

/-- A text after its opening quote. -/
def readText (cs : List Char) : Option (Option String × List Char) := do
  let (pieces, rest) ← readPieces (cs.length + 1) cs
  some ((joinPieces? pieces).map String.ofList, rest)

/-! ## Numerals -/

def takeDigits (cs : List Char) : List Char × List Char :=
  (cs.takeWhile Char.isDigit, cs.dropWhile Char.isDigit)

/-- At least one digit. -/
def readDigits? (cs : List Char) : Option (List Char × List Char) :=
  match takeDigits cs with
  | ([], _) => none
  | taken => some taken

/-- Whole digits: a zero stands alone. -/
def readWhole? (cs : List Char) : Option (List Char × List Char) :=
  match readDigits? cs with
  | some ('0' :: _ :: _, _) => none
  | taken => taken

def readFraction? : List Char → Option (Option (List Char) × List Char)
  | '.' :: rest => (readDigits? rest).map fun (digits, rest) => (some digits, rest)
  | cs => some (none, cs)

def readExponent? (cs : List Char) : Option (Option (Bool × List Char) × List Char) :=
  match cs with
  | c :: rest =>
    if c == 'e' || c == 'E' then
      let (down, rest) := match rest with
        | '+' :: rest => (false, rest)
        | '-' :: rest => (true, rest)
        | _ => (false, rest)
      (readDigits? rest).map fun (digits, rest) => (some (down, digits), rest)
    else some (none, cs)
  | [] => some (none, cs)

def readNumeral? (cs : List Char) : Option (Numeral × List Char) := do
  let (negative, cs) := match cs with
    | '-' :: rest => (true, rest)
    | _ => (false, cs)
  let (whole, cs) ← readWhole? cs
  let (fraction, cs) ← readFraction? cs
  let (exponent, cs) ← readExponent? cs
  some (⟨negative, whole, fraction, exponent⟩, cs)

/-! ## Values -/

/-- What follows a given word. -/
def afterWord? (word cs : List Char) : Option (List Char) :=
  if word.isPrefixOf cs then some (cs.drop word.length) else none

mutual

/-- One value after blanks; the number bounds the depth of the recursion. -/
def readDraft : Nat → List Char → Option (Draft × List Char)
  | 0, _ => none
  | fuel + 1, cs =>
    match skipSpace cs with
    | [] => none
    | c :: rest =>
      if c == '"' then (readText rest).map fun (s, rest) => (.text s, rest)
      else if c == '[' then
        match skipSpace rest with
        | ']' :: rest => some (.array [], rest)
        | _ => (readItems fuel rest).map fun (items, rest) => (.array items, rest)
      else if c == '\x7b' then
        match skipSpace rest with
        | '\x7d' :: rest => some (.object [], rest)
        | _ => (readFields fuel rest).map fun (fields, rest) => (.object fields, rest)
      else if c == 'n' then (afterWord? ['u', 'l', 'l'] rest).map fun rest => (.null, rest)
      else if c == 't' then (afterWord? ['r', 'u', 'e'] rest).map fun rest => (.bool true, rest)
      else if c == 'f' then
        (afterWord? ['a', 'l', 's', 'e'] rest).map fun rest => (.bool false, rest)
      else (readNumeral? (c :: rest)).map fun (n, rest) => (.numeral n, rest)

/-- At least one item, up to the closing bracket. -/
def readItems : Nat → List Char → Option (List Draft × List Char)
  | 0, _ => none
  | fuel + 1, cs => do
    let (item, rest) ← readDraft fuel cs
    match skipSpace rest with
    | ',' :: rest =>
      let (items, rest) ← readItems fuel rest
      some (item :: items, rest)
    | ']' :: rest => some ([item], rest)
    | _ => none

/-- At least one field, up to the closing brace. -/
def readFields : Nat → List Char → Option (List (Option String × Draft) × List Char)
  | 0, _ => none
  | fuel + 1, cs =>
    match skipSpace cs with
    | '"' :: rest => do
      let (key, rest) ← readText rest
      match skipSpace rest with
      | ':' :: rest =>
        let (value, rest) ← readDraft fuel rest
        match skipSpace rest with
        | ',' :: rest =>
          let (fields, rest) ← readFields fuel rest
          some ((key, value) :: fields, rest)
        | '\x7d' :: rest => some ([(key, value)], rest)
        | _ => none
      | _ => none
    | _ => none

end

@[simp] theorem readDraft_zero (cs : List Char) : readDraft 0 cs = none := by
  rw [readDraft]

/-- The draft of a whole text. -/
def read? (s : String) : Option Draft :=
  let cs := s.toList
  match readDraft (cs.length + 1) cs with
  | some (draft, rest) => if (skipSpace rest).isEmpty then some draft else none
  | none => none

mutual

/-- The value of a draft with at most `levels` nested containers. -/
def value? (levels : Nat) : Draft → Option Json
  | .null => some .null
  | .bool b => some (.bool b)
  | .numeral n => n.value?.map .number
  | .text s => s.map .text
  | .array items =>
    match levels with
    | 0 => none
    | levels + 1 => (itemValues? levels items).map .array
  | .object fields =>
    match levels with
    | 0 => none
    | levels + 1 => (fieldValues? levels fields).map fun fs => .object (Fields.ofList fs)

def itemValues? (levels : Nat) : List Draft → Option (List Json)
  | [] => some []
  | d :: ds => do
    let v ← value? levels d
    let vs ← itemValues? levels ds
    some (v :: vs)

def fieldValues? (levels : Nat) : List (Option String × Draft) → Option (List (String × Json))
  | [] => some []
  | (key, d) :: ds => do
    let k ← key
    let v ← value? levels d
    let vs ← fieldValues? levels ds
    some ((k, v) :: vs)

end

end Draft

/-- How deep arrays and objects may nest. -/
def maxLevels : Nat := 127

/-- The value of a whole text. -/
def read? (s : String) : Option Json := do (← Draft.read? s).value? maxLevels

end Json
end Testbench
