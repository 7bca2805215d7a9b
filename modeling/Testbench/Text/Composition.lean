import Testbench.Text.Composition.Table
import Testbench.Text.Mark
import Testbench.Text.Split

/-!
# Composition — bases and marks in one form

Many characters can also be written as a base and marks. The composed form of a text, which Unicode
calls NFC, uses as few characters as there are.

- `decompose` : every character as base and marks, in the order of their classes;
- `compose`   : base and marks as one character where there is one;
- `composed`  : the composed form.
-/

namespace Testbench
namespace Text
namespace Composition

/-- A character with its base and its mark. -/
structure Composite where
  mark : Char
  base : Char
  whole : Char
  deriving DecidableEq, Repr, Inhabited

def compositesOf (row : Nat × String) : List Composite :=
  (splitOn ' ' row.2.toList).filterMap fun
    | [base, whole] => some ⟨Char.ofNat row.1, base, whole⟩
    | _ => none

def composites : List Composite := rows.flatMap compositesOf

/-! ## Syllables of Hangul

These are composed by counting: a first letter and a vowel, then maybe a last letter. -/

def syllableStart : Nat := 0xAC00
def leadStart : Nat := 0x1100
def vowelStart : Nat := 0x1161
def tailStart : Nat := 0x11A7
def leadCount : Nat := 19
def vowelCount : Nat := 21
def tailCount : Nat := 28

def isSyllable (n : Nat) : Bool :=
  syllableStart ≤ n && n < syllableStart + leadCount * vowelCount * tailCount

def syllable? (a b : Nat) : Option Nat :=
  if leadStart ≤ a && a < leadStart + leadCount &&
      vowelStart ≤ b && b < vowelStart + vowelCount then
    some (syllableStart + ((a - leadStart) * vowelCount + (b - vowelStart)) * tailCount)
  else if isSyllable a && (a - syllableStart) % tailCount == 0
      && tailStart < b && b < tailStart + tailCount then some (a + (b - tailStart))
  else none

def letters (n : Nat) : List Nat :=
  let i := n - syllableStart
  let tail := i % tailCount
  [leadStart + i / (vowelCount * tailCount), vowelStart + i / tailCount % vowelCount]
    ++ if tail == 0 then [] else [tailStart + tail]

/-! ## Decomposition -/

/-- A character as base and marks; the number bounds how many marks it may hold. -/
def decomposeChar : Nat → Char → List Char
  | 0, c => [c]
  | n + 1, c =>
    if isSyllable c.toNat then (letters c.toNat).map Char.ofNat
    else match composites.find? fun x => x.whole == c with
      | some x => decomposeChar n x.base ++ [x.mark]
      | none => [c]

/-- Marks that one character may hold. -/
def maxMarks : Nat := 8

/-- Put a character in front of a text, behind marks of lower classes. -/
def insert (c : Char) : List Char → List Char
  | [] => [c]
  | d :: rest =>
    if combiningClass d != 0 && combiningClass d < combiningClass c then d :: insert c rest
    else c :: d :: rest

def order (cs : List Char) : List Char := cs.foldr insert []

def decompose (cs : List Char) : List Char :=
  order (cs.flatMap fun c => if c.toNat < 0x80 then [c] else decomposeChar maxMarks c)

/-! ## Composition -/

def pair? (base mark : Char) : Option Char :=
  match syllable? base.toNat mark.toNat with
  | some n => some (Char.ofNat n)
  | none => (composites.find? fun x => x.base == base && x.mark == mark).map (·.whole)

/-- Compose a base with what follows it. `between` holds the marks after the base, the last first; a
mark that comes after one of its own class does not reach the base. -/
def composeFrom (base : Char) (between : List Char) : List Char → List Char
  | [] => base :: between.reverse
  | c :: rest =>
    let isBlocked := between.head?.any fun d => combiningClass c ≤ combiningClass d
    match if isBlocked then none else pair? base c with
    | some whole => composeFrom whole between rest
    | none =>
      if combiningClass c == 0 then base :: between.reverse ++ composeFrom c [] rest
      else composeFrom base (c :: between) rest

def compose : List Char → List Char
  | [] => []
  | c :: rest => composeFrom c [] rest

end Composition

/-- The composed form of a text. -/
def composed (cs : List Char) : List Char :=
  if cs.all fun c => c.toNat < 0x80 then cs else Composition.compose (Composition.decompose cs)

end Text
end Testbench
