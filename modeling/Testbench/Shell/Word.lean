/-!
# Word — what a shell command is written in

- `Piece`, `Word` : words, with what is to be put in for names, commands and sums;
- `Token`         : words and signs;
- `Unclosed`      : what a text may leave open;
- `tokenize`      : the tokens of a text, each with its line.
-/

namespace Testbench
namespace Shell

/-- What is put in for a name in braces. The sources are words to be read when they are needed. -/
inductive Change where
  | value
  | length
  /-- Another text for what is not set; with `empty`, also for what is empty. -/
  | otherwise (empty : Bool) (source : List Char)
  | assign (empty : Bool) (source : List Char)
  | instead (empty : Bool) (source : List Char)
  | require (empty : Bool) (source : List Char)
  /-- Without the part at the start that a pattern describes, the longest one or the shortest. -/
  | cutStart (longest : Bool) (source : List Char)
  | cutEnd (longest : Bool) (source : List Char)
  | malformed
  deriving DecidableEq, Repr, Inhabited

/-- A part of a word. What stands in quotes is never split. -/
inductive Piece where
  | text (quoted : Bool) (cs : List Char)
  /-- Text that is split like a value. -/
  | loose (cs : List Char)
  | parameter (quoted : Bool) (name : String) (change : Change)
  /-- What a command prints. -/
  | command (quoted : Bool) (source : List Char)
  /-- What a sum comes to. -/
  | arithmetic (quoted : Bool) (source : List Char)
  deriving DecidableEq, Repr, Inhabited

abbrev Word := List Piece

inductive Sign where
  | semicolon
  | doubleSemicolon
  | background
  | andThen
  | orElse
  | pipe
  | openParen
  | closeParen
  | newline
  deriving DecidableEq, Repr, Inhabited

/-- A redirection sign. -/
inductive Arrow where
  | into
  | append
  | source
  | copy
  | copyInput
  /-- Input that stands in the text itself; tabs in front of its lines may be dropped. -/
  | here (stripped : Bool)
  deriving DecidableEq, Repr, Inhabited

/-- What a text opens and never closes. -/
inductive Unclosed where
  | quote
  | brace
  | backQuote
  | paren
  deriving DecidableEq, Repr, Inhabited

/-- What is open as long as a character is awaited. -/
def Unclosed.ofCloser (c : Char) : Unclosed :=
  if c == '\x7d' then .brace
  else if c == '\x60' then .backQuote
  else if c == ')' then .paren
  else .quote

inductive Token where
  | word (w : Word)
  | sign (s : Sign)
  /-- The digit before an arrow names what is redirected. -/
  | arrow (descriptor : Option Nat) (a : Arrow)
  /-- Input that stands in the text. -/
  | body (w : Word)
  | unclosed (what : Unclosed)
  /-- The end of the text. -/
  | finish
  deriving DecidableEq, Repr, Inhabited

/-! ## Characters -/

def isNameStart (c : Char) : Bool := c.isAlpha || c == '_'

def isNameChar (c : Char) : Bool := c.isAlphanum || c == '_'

/-- Names of one character that are not letters. -/
def isSpecialName (c : Char) : Bool := c.isDigit || "*@#?$!-".contains c

def isSpace (c : Char) : Bool := c == ' ' || c == '\t'

/-- Characters that end a word. -/
def endsWord (c : Char) : Bool := isSpace c || "\n;&|()<>".contains c

/-- Characters that a backslash protects inside double quotes. -/
def isProtected (c : Char) : Bool := "$\x60\"\\".contains c

/-! ## Nested texts -/

/-- What a character opens inside something that `top` closes. -/
def closerFor? (top c : Char) : Option Char :=
  if c == '\x60' then some '\x60'
  else if top == '"' then none
  else if c == '\'' || c == '"' then some c
  else if c == '(' && top == ')' then some ')'
  else none

/-- Text up to where the last of the open signs is closed, and what follows it. -/
def untilClosed : (closers : List Char) → List Char → Except Unclosed (List Char × List Char)
  | [], rest => .ok ([], rest)
  | top :: _, [] => .error (.ofCloser top)
  | top :: closers, [c] =>
    if c != top then .error (.ofCloser top)
    else match closers with
      | [] => .ok ([], [])
      | next :: _ => .error (.ofCloser next)
  | top :: closers, c :: d :: rest =>
    let first (more : List Char) (r : Except Unclosed (List Char × List Char)) :
        Except Unclosed (List Char × List Char) :=
      r.map fun (inside, after) => (more ++ inside, after)
    if top == '\'' then first [c] (untilClosed (if c == '\'' then closers else top :: closers)
      (d :: rest))
    else if c == '\\' then first [c, d] (untilClosed (top :: closers) rest)
    else if c == top then
      if closers.isEmpty then .ok ([], d :: rest) else first [c] (untilClosed closers (d :: rest))
    else if c == '$' && d == '(' then first [c, d] (untilClosed (')' :: top :: closers) rest)
    else if c == '$' && d == '\x7b' then first [c, d] (untilClosed ('\x7d' :: top :: closers) rest)
    else match closerFor? top c with
      | some closer => first [c] (untilClosed (closer :: top :: closers) (d :: rest))
      | none => first [c] (untilClosed (top :: closers) (d :: rest))

/-- The source of a command in back quotes, whose backslashes protect a few characters. -/
def unquoteBack (quoted : Bool) : List Char → List Char
  | '\\' :: c :: rest =>
    if "$\x60\\".contains c || (quoted && c == '"') then c :: unquoteBack quoted rest
    else '\\' :: unquoteBack quoted (c :: rest)
  | c :: rest => c :: unquoteBack quoted rest
  | [] => []

/-- What follows the name in braces. -/
def changeOf : List Char → Change
  | [] => .value
  | ':' :: '-' :: source => .otherwise true source
  | ':' :: '=' :: source => .assign true source
  | ':' :: '+' :: source => .instead true source
  | ':' :: '?' :: source => .require true source
  | '-' :: source => .otherwise false source
  | '=' :: source => .assign false source
  | '+' :: source => .instead false source
  | '?' :: source => .require false source
  | '#' :: '#' :: source => .cutStart true source
  | '#' :: source => .cutStart false source
  | '%' :: '%' :: source => .cutEnd true source
  | '%' :: source => .cutEnd false source
  | _ => .malformed

/-- A name at the start of a text, and what follows it. -/
def nameAt? : List Char → Option (List Char × List Char)
  | [] => none
  | c :: rest =>
    if isNameStart c then some ((c :: rest).span isNameChar)
    else if c.isDigit then some ((c :: rest).span Char.isDigit)
    else if isSpecialName c then some ([c], rest)
    else none

/-- The piece that braces stand for. -/
def braced (quoted : Bool) (inside : List Char) : Piece :=
  let plain : Piece := match nameAt? inside with
    | some (name, rest) => .parameter quoted (String.ofList name) (changeOf rest)
    | none => .parameter quoted "" .malformed
  match inside with
  | '#' :: rest => match nameAt? rest with
    | some (name, []) => .parameter quoted (String.ofList name) .length
    | _ => plain
  | _ => plain

/-- The inside of doubled parentheses. -/
def sum? : List Char → Option (List Char)
  | '(' :: rest => match untilClosed [')'] rest with
    | .ok (inside, []) => some inside
    | _ => none
  | _ => none

/-- What stands after a dollar sign, and what follows it. -/
def afterDollar (quoted : Bool) : List Char → Except Unclosed (Piece × List Char)
  | '\x7b' :: rest => (untilClosed ['\x7d'] rest).map fun (inside, after) =>
    (braced quoted inside, after)
  | '(' :: rest => (untilClosed [')'] rest).map fun (inside, after) =>
    match sum? inside with
    | some source => (.arithmetic quoted source, after)
    | none => (.command quoted inside, after)
  | c :: rest =>
    if isNameStart c then
      let (name, after) := (c :: rest).span isNameChar
      .ok (.parameter quoted (String.ofList name) .value, after)
    else if isSpecialName c then .ok (.parameter quoted (String.ofList [c]) .value, rest)
    else .ok (.text quoted ['$'], c :: rest)
  | [] => .ok (.text quoted ['$'], [])

/-! ## Words -/

/-- What a double quote means in a text that stands in quotes. -/
inductive QuoteMark where
  | closing
  | dropped
  | plain
  deriving DecidableEq, Repr, Inhabited

/-- The inside of double quotes: up to the closing one, or the whole text. -/
def doubleQuoted (mark : QuoteMark) : Nat → List Char → Except Unclosed (List Piece × List Char)
  | 0, _ => .error .quote
  | _, [] => if mark == .closing then .error .quote else .ok ([], [])
  | n + 1, '\\' :: '\n' :: rest => doubleQuoted mark n rest
  | n + 1, '\\' :: c :: rest => do
    let (pieces, after) ← doubleQuoted mark n rest
    let protects := isProtected c && (c != '"' || mark != .plain)
    .ok (.text true (if protects then [c] else ['\\', c]) :: pieces, after)
  | n + 1, '$' :: rest => do
    let (piece, rest) ← afterDollar true rest
    let (pieces, after) ← doubleQuoted mark n rest
    .ok (piece :: pieces, after)
  | n + 1, '\x60' :: rest => do
    let (source, rest) ← untilClosed ['\x60'] rest
    let (pieces, after) ← doubleQuoted mark n rest
    .ok (.command true (unquoteBack (mark != .plain) source) :: pieces, after)
  | n + 1, c :: rest =>
    if c == '"' && mark == .closing then .ok ([], rest)
    else if c == '"' && mark == .dropped then doubleQuoted mark n rest
    else do
      let (pieces, after) ← doubleQuoted mark n rest
      .ok (.text true [c] :: pieces, after)

/-- A word from its first character on, and what follows; with `whole`, the whole text. -/
def readWord (whole : Bool) : Nat → List Char → Except Unclosed (Word × List Char)
  | 0, _ => .error .quote
  | _, [] => .ok ([], [])
  | n + 1, '\\' :: '\n' :: rest => readWord whole n rest
  | n + 1, '\\' :: c :: rest => do
    let (pieces, after) ← readWord whole n rest
    .ok (.text true [c] :: pieces, after)
  | n + 1, '\'' :: rest =>
    match rest.span (· != '\'') with
    | (_, []) => .error .quote
    | (inside, _ :: rest) => do
      let (pieces, after) ← readWord whole n rest
      .ok (.text true inside :: pieces, after)
  | n + 1, '"' :: rest => do
    let (inside, rest) ← doubleQuoted .closing n rest
    let (pieces, after) ← readWord whole n rest
    .ok ((if inside.isEmpty then [.text true []] else inside) ++ pieces, after)
  | n + 1, '$' :: rest => do
    let (piece, rest) ← afterDollar false rest
    let (pieces, after) ← readWord whole n rest
    .ok (piece :: pieces, after)
  | n + 1, '\x60' :: rest => do
    let (source, rest) ← untilClosed ['\x60'] rest
    let (pieces, after) ← readWord whole n rest
    .ok (.command false (unquoteBack false source) :: pieces, after)
  | n + 1, c :: rest =>
    if endsWord c && !whole then .ok ([], c :: rest)
    else do
      let (pieces, after) ← readWord whole n rest
      .ok (.text false [c] :: pieces, after)

/-- A whole text as a word. -/
def wordOf (cs : List Char) : Word :=
  match readWord true (cs.length + 1) cs with
  | .ok (w, _) => w
  | .error _ => []

/-- A whole text as a word that is split like a value. -/
def looseWordOf (cs : List Char) : Word := (wordOf cs).map fun
  | .text false part => .loose part
  | piece => piece

/-- A whole text as a word that stands in quotes. -/
def quotedWordOf (mark : QuoteMark) (cs : List Char) : Word :=
  match doubleQuoted mark (cs.length + 1) cs with
  | .ok (w, _) => w
  | .error _ => []

/-! ## Input in the text -/

/-- Input that is still to come: whether tabs are dropped, whether nothing is put in, and the line
behind it. -/
structure Awaited where
  stripped : Bool
  plain : Bool
  delimiter : List Char
  deriving DecidableEq, Repr, Inhabited

def awaitedBy (stripped : Bool) (w : Word) : Awaited where
  stripped := stripped
  plain := w.any fun
    | .text quoted _ => quoted
    | _ => false
  delimiter := w.flatMap fun
    | .text _ cs => cs
    | _ => []

/-- The lines up to the delimiter, and what follows it. -/
def untilLine (a : Awaited) : Nat → List Char → List Char × List Char
  | 0, cs => ([], cs)
  | _, [] => ([], [])
  | n + 1, cs =>
    let (line, rest) := cs.span (· != '\n')
    let line := if a.stripped then line.dropWhile (· == '\t') else line
    if line == a.delimiter then ([], rest.drop 1)
    else
      let (more, after) := untilLine a n (rest.drop 1)
      (line ++ rest.take 1 ++ more, after)

/-- The awaited inputs in order, and what follows them. -/
def readBodies : List Awaited → List Char → List Word × List Char
  | [], cs => ([], cs)
  | a :: rest, cs =>
    let (body, after) := untilLine a (cs.length + 1) cs
    let (others, after) := readBodies rest after
    ((if a.plain then [.text true body] else quotedWordOf .plain body) :: others, after)

/-! ## Tokens -/

/-- Signs, the longest first. -/
def signs : List (List Char × Sign) :=
  [([';', ';'], .doubleSemicolon), ([';'], .semicolon), (['&', '&'], .andThen),
    (['&'], .background), (['|', '|'], .orElse), (['|'], .pipe), (['('], .openParen),
    ([')'], .closeParen), (['\n'], .newline)]

def arrows : List (List Char × Arrow) :=
  [(['<', '<', '-'], .here true), (['<', '<'], .here false), (['>', '>'], .append),
    (['>', '&'], .copy), (['<', '&'], .copyInput), (['>', '|'], .into), (['>'], .into),
    (['<'], .source)]

def afterStart? {α : Type} (table : List (List Char × α)) (cs : List Char) :
    Option (α × List Char) :=
  (table.find? fun entry => entry.1.isPrefixOf cs).map fun entry =>
    (entry.2, cs.drop entry.1.length)

/-- An arrow, with a digit before it if one stands there. -/
def arrow? (cs : List Char) : Option ((Option Nat × Arrow) × List Char) :=
  match cs with
  | d :: rest =>
    if d.isDigit then
      (afterStart? arrows rest).map fun (a, after) => ((some (d.toNat - '0'.toNat), a), after)
    else (afterStart? arrows cs).map fun (a, after) => ((none, a), after)
  | [] => none

def countLines (cs : List Char) : Nat := (cs.filter (· == '\n')).length

/-- The text between a text and one of its ends. -/
def consumed (cs after : List Char) : List Char := cs.take (cs.length - after.length)

/-- The tokens of a text, each with the line that is reached with its end. `opened` tells that the
next word names the line behind an input, and `awaited` which inputs follow the current line. -/
def tokenizeFrom : Nat → Nat → (opened : Option Bool) → (awaited : List Awaited) → List Char →
    List (Nat × Token)
  | 0, line, _, _, _ => [(line, .finish)]
  | _, line, _, awaited, [] =>
    ((readBodies awaited []).1.map fun w => (line, .body w)) ++ [(line, .finish)]
  | n + 1, line, opened, awaited, c :: rest =>
    if isSpace c then tokenizeFrom n line opened awaited rest
    else if c == '#' then tokenizeFrom n line opened awaited (rest.dropWhile (· != '\n'))
    else if ['\\', '\n'].isPrefixOf (c :: rest) then
      tokenizeFrom n (line + 1) opened awaited (rest.drop 1)
    else if c == '\n' then
      let (bodies, after) := readBodies awaited rest
      let next := line + 1 + countLines (consumed rest after)
      (next, .sign .newline)
        :: (bodies.map fun w => (next, .body w)) ++ tokenizeFrom n next none [] after
    else match arrow? (c :: rest) with
      | some ((d, a), after) =>
        let opened := match a with
          | .here stripped => some stripped
          | _ => none
        (line, .arrow d a) :: tokenizeFrom n line opened awaited after
      | none => match afterStart? signs (c :: rest) with
        | some (sign, after) => (line, .sign sign) :: tokenizeFrom n line none awaited after
        | none => match readWord false (rest.length + 2) (c :: rest) with
          | .ok (w, after) =>
            let awaited := awaited ++ (opened.map fun stripped => awaitedBy stripped w).toList
            let line := line + countLines (consumed (c :: rest) after)
            (line, .word w) :: tokenizeFrom n line none awaited after
          | .error what => [(line + countLines (c :: rest), .unclosed what)]

/-- Put each input in the place of the word that names the line behind it. -/
def placeBodies : List Word → List (Nat × Token) → List (Nat × Token)
  | bodies, (l, .arrow d (.here stripped)) :: (m, .word w) :: rest =>
    (l, .arrow d (.here stripped)) :: (m, .word (bodies.headD w)) :: placeBodies bodies.tail rest
  | bodies, t :: rest => t :: placeBodies bodies rest
  | _, [] => []

def bodyOf? : Nat × Token → Option Word
  | (_, .body w) => some w
  | _ => none

def tokenize (cs : List Char) : List (Nat × Token) :=
  let tokens := tokenizeFrom (cs.length + 1) 1 none [] cs
  placeBodies (tokens.filterMap bodyOf?) (tokens.filter fun t => (bodyOf? t).isNone)

end Shell
end Testbench
