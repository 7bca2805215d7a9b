import Testbench.Shell.Word

/-!
# Command — what a shell executes

- `Command`   : commands and how they are put together;
- `next?`     : the commands up to the end of a line.
-/

namespace Testbench
namespace Shell

/-- A redirection of a descriptor. -/
inductive Redirect where
  | toFile (descriptor : Nat) (append : Bool) (target : Word)
  | fromFile (source : Word)
  | copy (descriptor : Nat) (source : Word)
  | copyInput (source : Word)
  /-- Input that stands in the text. -/
  | here (body : Word)
  deriving Repr, Inhabited

/-- Assignments, words and redirections, and the line on which they start. -/
structure Simple where
  line : Nat
  assignments : List (String × Word)
  words : List Word
  redirects : List Redirect
  deriving Repr, Inhabited

inductive Command where
  | skip
  | simple (c : Simple)
  | negate (c : Command)
  | pipe (left right : Command)
  | andThen (left right : Command)
  | orElse (left right : Command)
  | sequence (first second : Command)
  /-- Redirections hold for a command that starts on a line. -/
  | redirected (line : Nat) (c : Command) (redirects : List Redirect)
  | subshell (c : Command)
  | background (c : Command)
  | branch (condition yes no : Command)
  /-- Repeat while the condition succeeds, or until it does. -/
  | loop (stopsOnSuccess : Bool) (condition body : Command)
  /-- Without words, over the parameters. -/
  | each (name : String) (words : Option (List Word)) (body : Command)
  | choose (subject : Word) (arms : List (List Word × Command))
  /-- Give a name to a command. -/
  | define (name : String) (body : Command)
  deriving Repr, Inhabited

abbrev Tokens := List (Nat × Token)

/-- A text that is no command: what is wrong on a line. -/
structure SyntaxError where
  line : Nat
  message : String
  deriving Repr, Inhabited

/-! ## Reserved words -/

/-- The text of a word without quotes and names. -/
def plain? : Word → Option (List Char)
  | [] => some []
  | .text false cs :: rest => (plain? rest).map (cs ++ ·)
  | _ => none

/-- Words that end a list of commands. -/
def closers : List String := ["then", "else", "elif", "fi", "do", "done", "esac", "\x7d"]

def wordText? : Token → Option String
  | .word w => (plain? w).map String.ofList
  | _ => none

def isWord (s : String) (ts : Tokens) : Bool :=
  match ts with
  | (_, t) :: _ => wordText? t == some s
  | [] => false

def isSign (s : Sign) (ts : Tokens) : Bool :=
  match ts with
  | (_, t) :: _ => t == .sign s
  | [] => false

/-- Whether the text ends here, or something in it is never closed. -/
def isFinished (ts : Tokens) : Bool :=
  match ts with
  | [] | (_, .finish) :: _ | (_, .unclosed _) :: _ => true
  | _ => false

def isClosed (ts : Tokens) : Bool :=
  isFinished ts || match ts with
  | [] => true
  | (_, .sign .closeParen) :: _ => true
  | (_, .sign .doubleSemicolon) :: _ => true
  | (_, t) :: _ => (wordText? t).any closers.contains

def skipNewlines (ts : Tokens) : Tokens := ts.dropWhile fun t => t.2 == .sign .newline

/-! ## Errors -/

/-- Words that are not plain where a command starts. -/
def reserved : List String :=
  closers ++ ["!", "case", "for", "if", "in", "until", "while", "\x7b"]

def quote (s : String) : String := "\"" ++ s ++ "\""

def signText : Sign → String
  | .semicolon => quote ";"
  | .doubleSemicolon => quote ";;"
  | .background => quote "&"
  | .andThen => quote "&&"
  | .orElse => quote "||"
  | .pipe => quote "|"
  | .openParen => quote "("
  | .closeParen => quote ")"
  | .newline => "newline"

def tokenText : Token → String
  | .word w => match (plain? w).map String.ofList with
    | some text => if reserved.contains text then quote text else "word"
    | none => "word"
  | .sign s => signText s
  | .arrow .. => "redirection"
  | .body _ => "word"
  | .unclosed _ | .finish => "end of file"

/-- What was found, and what should stand there if only that can. -/
def found (ts : Tokens) (wanted : Option String) : SyntaxError :=
  let (line, token) := ts.headD (0, .finish)
  match token with
  | .unclosed .quote => ⟨line, "Unterminated quoted string"⟩
  | .unclosed .brace => ⟨line, "Missing " ++ "'\x7d'"⟩
  | .unclosed .backQuote => ⟨line, "EOF in backquote substitution"⟩
  | .unclosed .paren => ⟨line, "end of file unexpected (expecting " ++ signText .closeParen ++ ")"⟩
  | token => ⟨line, tokenText token ++ " unexpected" ++ match wanted with
    | some text => " (expecting " ++ text ++ ")"
    | none => ""⟩

def unexpected (ts : Tokens) : SyntaxError := found ts none

/-- Something wrong with the first token. -/
def faulty (ts : Tokens) (message : String) : SyntaxError := ⟨(ts.headD (0, .finish)).1, message⟩

def expectWord (s : String) (ts : Tokens) : Except SyntaxError Tokens :=
  if isWord s ts then .ok (ts.drop 1) else .error (found ts (some (quote s)))

def expectSign (s : Sign) (ts : Tokens) : Except SyntaxError Tokens :=
  if isSign s ts then .ok (ts.drop 1) else .error (found ts (some (signText s)))

/-- The name that a word is. -/
def name? (w : Word) : Option String :=
  match plain? w with
  | some (c :: cs) =>
    if isNameStart c && cs.all isNameChar then some (String.ofList (c :: cs)) else none
  | _ => none

/-- Builtins that no function may hide. -/
def specialBuiltins : List String :=
  [":", ".", "break", "continue", "eval", "exec", "exit", "export", "local", "readonly", "return",
    "set", "shift", "times", "trap", "unset"]

/-! ## Simple commands -/

/-- The name and the value of an assignment. -/
def assignment? (w : Word) : Option (String × Word) :=
  let (lead, rest) := w.span fun p => match p with
    | .text false ['='] => false
    | .text false _ => true
    | _ => false
  match rest with
  | .text false ['='] :: value => (name? lead).map fun name => (name, value)
  | _ => none

def redirectOf (descriptor : Option Nat) (a : Arrow) (target : Word) : Redirect :=
  match a with
  | .into => .toFile (descriptor.getD 1) false target
  | .append => .toFile (descriptor.getD 1) true target
  | .source => .fromFile target
  | .here _ => .here target
  | .copy => .copy (descriptor.getD 1) target
  | .copyInput => .copyInput target

/-- The redirections in front of the tokens. -/
def redirects : Tokens → Except SyntaxError ((List Redirect) × Tokens)
  | (_, .arrow d a) :: (_, .word w) :: rest => do
    let (others, rest) ← redirects rest
    .ok (redirectOf d a w :: others, rest)
  | (_, .arrow ..) :: rest => .error (unexpected rest)
  | ts => .ok ([], ts)

def simpleParts (c : Simple) : Tokens → Except SyntaxError (Simple × Tokens)
  | (_, .arrow d a) :: (_, .word w) :: rest =>
    simpleParts { c with redirects := c.redirects ++ [redirectOf d a w] } rest
  | (_, .arrow ..) :: rest => .error (unexpected rest)
  | (_, .word w) :: rest =>
    match c.words.isEmpty, assignment? w with
    | true, some a => simpleParts { c with assignments := c.assignments ++ [a] } rest
    | _, _ => simpleParts { c with words := c.words ++ [w] } rest
  | ts => .ok (c, ts)

/-- The words up to a separator. -/
def wordsUntilEnd : Tokens → List Word × Tokens
  | (_, .word w) :: rest =>
    let (others, rest) := wordsUntilEnd rest
    (w :: others, rest)
  | ts => ([], ts)

/-- The patterns of an arm, up to the closing parenthesis. -/
def patterns : Tokens → Except SyntaxError ((List Word) × Tokens)
  | (_, .word w) :: (_, .sign .pipe) :: rest => do
    let (others, rest) ← patterns rest
    .ok (w :: others, rest)
  | (_, .word w) :: rest => do .ok ([w], ← expectSign .closeParen rest)
  | ts => .error (found ts (some (signText .closeParen)))

/-! ## Commands -/

def chain (first second : Command) : Command :=
  match first, second with
  | .skip, c => c
  | c, .skip => c
  | a, b => .sequence a b

mutual

/-- Commands up to something that ends them; with `whole`, also across lines. -/
def parseList (whole : Bool) : Nat → Tokens → Except SyntaxError (Command × Tokens)
  | 0, ts => .error (unexpected ts)
  | n + 1, ts => do
    let ts := if whole then skipNewlines ts else ts
    if isClosed ts || isSign .newline ts then .ok (.skip, ts)
    else
      let (first, ts) ← parseChain n ts
      let first := if isSign .background ts then .background first else first
      if isSign .semicolon ts || isSign .background ts || (whole && isSign .newline ts) then
        let (rest, ts) ← parseList whole n (ts.drop 1)
        .ok (chain first rest, ts)
      else .ok (first, ts)

/-- Commands inside another one, of which there has to be one at least. -/
def parseBody : Nat → Tokens → Except SyntaxError (Command × Tokens)
  | 0, ts => .error (unexpected ts)
  | n + 1, ts =>
    let ts := skipNewlines ts
    if isClosed ts && !isFinished ts then .error (unexpected ts) else parseList true n ts

/-- Pipelines joined by `&&` and `||`. -/
def parseChain : Nat → Tokens → Except SyntaxError (Command × Tokens)
  | 0, ts => .error (unexpected ts)
  | n + 1, ts => do
    let (first, ts) ← parsePipeline n ts
    parseMore n first ts

def parseMore : Nat → Command → Tokens → Except SyntaxError (Command × Tokens)
  | 0, _, ts => .error (unexpected ts)
  | n + 1, left, ts => do
    if isSign .andThen ts then
      let (right, ts) ← parsePipeline n (skipNewlines (ts.drop 1))
      parseMore n (.andThen left right) ts
    else if isSign .orElse ts then
      let (right, ts) ← parsePipeline n (skipNewlines (ts.drop 1))
      parseMore n (.orElse left right) ts
    else .ok (left, ts)

def parsePipeline : Nat → Tokens → Except SyntaxError (Command × Tokens)
  | 0, ts => .error (unexpected ts)
  | n + 1, ts => do
    if isWord "!" ts then
      let (c, ts) ← parsePipeline n (ts.drop 1)
      .ok (.negate c, ts)
    else
      let (first, ts) ← parseCommand n ts
      if isSign .pipe ts then
        let (second, ts) ← parsePipeline n (skipNewlines (ts.drop 1))
        .ok (.pipe first second, ts)
      else .ok (first, ts)

/-- One command, with the redirections behind it. -/
def parseCommand : Nat → Tokens → Except SyntaxError (Command × Tokens)
  | 0, ts => .error (unexpected ts)
  | n + 1, ts => do
    let line := (ts.headD (0, .finish)).1
    match ← parseCompound? n ts with
    | some (c, ts) => do
      let (rs, ts) ← redirects ts
      .ok (if rs.isEmpty then c else .redirected line c rs, ts)
    | none => match ts with
      | (_, .word w) :: (_, .sign .openParen) :: rest => do
        let rest ← expectSign .closeParen rest
        match (name? w).filter fun name => !specialBuiltins.contains name with
        | some name => do
          let (body, rest) ← parseCommand n (skipNewlines rest)
          .ok (.define name body, rest)
        | none => .error (faulty rest "Bad function name")
      | (line, .word _) :: _ | (line, .arrow ..) :: _ =>
        if isClosed ts then .error (unexpected ts)
        else do
          let (c, ts) ← simpleParts ⟨line, [], [], []⟩ ts
          .ok (.simple c, ts)
      | _ => .error (unexpected ts)

def parseCompound? : Nat → Tokens → Except SyntaxError (Option (Command × Tokens))
  | 0, ts => .error (unexpected ts)
  | n + 1, ts => do
    if isSign .openParen ts then
      let (c, ts) ← parseBody n (ts.drop 1)
      .ok (some (.subshell c, ← expectSign .closeParen ts))
    else if isWord "\x7b" ts then
      let (c, ts) ← parseBody n (ts.drop 1)
      .ok (some (c, ← expectWord "\x7d" ts))
    else if isWord "if" ts then
      .ok (some (← parseBranch n (ts.drop 1)))
    else if isWord "while" ts || isWord "until" ts then
      let (condition, rest) ← parseBody n (ts.drop 1)
      let (body, rest) ← parseBody n (← expectWord "do" rest)
      .ok (some (.loop (isWord "until" ts) condition body, ← expectWord "done" rest))
    else if isWord "for" ts then
      .ok (some (← parseEach n (ts.drop 1)))
    else if isWord "case" ts then
      match ts.drop 1 with
      | (_, .word w) :: rest => do
        let rest ← expectWord "in" (skipNewlines rest)
        let (arms, rest) ← parseArms n rest
        .ok (some (.choose w arms, rest))
      | rest => .error (found rest (some "word"))
    else .ok none

/-- What follows a `for`. -/
def parseEach : Nat → Tokens → Except SyntaxError (Command × Tokens)
  | 0, ts => .error (unexpected ts)
  | n + 1, ts => do
    let name := match ts with
      | (_, .word w) :: _ => name? w
      | _ => none
    match name with
    | none => .error (faulty ts "Bad for loop variable")
    | some name =>
      let rest := skipNewlines (ts.drop 1)
      let (words, rest) := if isWord "in" rest then
          let (words, rest) := wordsUntilEnd (rest.drop 1)
          (some words, rest)
        else (none, rest)
      let rest := skipNewlines (if isSign .semicolon rest then rest.drop 1 else rest)
      let (body, rest) ← parseBody n (← expectWord "do" rest)
      .ok (.each name words body, ← expectWord "done" rest)

/-- What follows an `if` or an `elif`, up to its end. -/
def parseBranch : Nat → Tokens → Except SyntaxError (Command × Tokens)
  | 0, ts => .error (unexpected ts)
  | n + 1, ts => do
    let (condition, ts) ← parseBody n ts
    let (yes, ts) ← parseBody n (← expectWord "then" ts)
    if isWord "elif" ts then
      let (no, ts) ← parseBranch n (ts.drop 1)
      .ok (.branch condition yes no, ts)
    else if isWord "else" ts then
      let (no, ts) ← parseBody n (ts.drop 1)
      .ok (.branch condition yes no, ← expectWord "fi" ts)
    else .ok (.branch condition yes .skip, ← expectWord "fi" ts)

/-- The arms of a `case` and its end. -/
def parseArms : Nat → Tokens → Except SyntaxError ((List (List Word × Command)) × Tokens)
  | 0, ts => .error (unexpected ts)
  | n + 1, ts => do
    let ts := skipNewlines ts
    if isWord "esac" ts then .ok ([], ts.drop 1)
    else
      let (ps, ts) ← patterns (if isSign .openParen ts then ts.drop 1 else ts)
      let (body, ts) ← parseList true n ts
      if isWord "esac" ts then .ok ([(ps, body)], ts.drop 1)
      else
        let (others, ts) ← parseArms n (← expectSign .doubleSemicolon ts)
        .ok ((ps, body) :: others, ts)

end

/-- The commands up to the end of a line; `none` at the end of the text. -/
def next? (ts : Tokens) : Except SyntaxError (Option (Command × Tokens)) := do
  let ts := skipNewlines ts
  match ts with
  | [] | [(_, .finish)] => .ok none
  | ts =>
    let (c, rest) ← parseList false (8 * ts.length + 8) ts
    match rest with
    | [] | (_, .finish) :: _ => .ok (some (c, rest))
    | (_, .sign .newline) :: rest => .ok (some (c, rest))
    | _ => .error (unexpected rest)

end Shell
end Testbench
