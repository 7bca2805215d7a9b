/-!
# Pattern — the patterns of a shell

A star stands for any text, a question mark for any character, brackets for one of the characters in
them. A quoted character stands for itself.

- `Pattern.matches` : whether a text is described by a pattern.
-/

namespace Testbench
namespace Shell

/-- Characters, each with the word whether it was quoted. -/
abbrev Pattern := List (Char × Bool)

namespace Pattern

/-- One place of a pattern. -/
inductive Place where
  | any
  | one
  | exactly (c : Char)
  | among (negated : Bool) (ranges : List (Char × Char))
  deriving DecidableEq, Repr, Inhabited

/-- The ranges up to the closing bracket, and what follows. -/
def ranges? : Nat → Bool → Pattern → Option (List (Char × Char) × Pattern)
  | 0, _, _ => none
  | _, _, [] => none
  | n + 1, first, (c, quoted) :: rest =>
    if c == ']' && !quoted && !first then some ([], rest)
    else match rest with
      | ('-', false) :: (d, q) :: more =>
        if d == ']' && !q then
          (ranges? n false rest).map fun (rs, after) => ((c, c) :: rs, after)
        else (ranges? n false more).map fun (rs, after) => ((c, d) :: rs, after)
      | _ => (ranges? n false rest).map fun (rs, after) => ((c, c) :: rs, after)

def places : Nat → Pattern → List Place
  | 0, _ => []
  | _, [] => []
  | n + 1, ('*', false) :: rest => .any :: places n rest
  | n + 1, ('?', false) :: rest => .one :: places n rest
  | n + 1, ('[', false) :: rest =>
    let negated := match rest with
      | ('!', false) :: _ => true
      | _ => false
    match ranges? (rest.length + 1) true (if negated then rest.drop 1 else rest) with
    | some (rs, after) => .among negated rs :: places n after
    | none => .exactly '[' :: places n rest
  | n + 1, (c, _) :: rest => .exactly c :: places n rest

def Place.admits (p : Place) (c : Char) : Bool :=
  match p with
  | .any | .one => true
  | .exactly d => c == d
  | .among negated rs => (rs.any fun r => r.1 ≤ c && c ≤ r.2) != negated

/-- Whether a text is described by places. -/
def fits : List Place → List Char → Bool
  | [], cs => cs.isEmpty
  | .any :: rest, cs => fitsTail rest cs
  | p :: rest, cs => match cs with
    | c :: cs => p.admits c && fits rest cs
    | [] => false
where
  /-- Whether some end of a text is described by places. -/
  fitsTail (rest : List Place) : List Char → Bool
    | [] => fits rest []
    | c :: cs => fits rest (c :: cs) || fitsTail rest cs

def «matches» (p : Pattern) (cs : List Char) : Bool := fits (places (p.length + 1) p) cs

end Pattern
end Shell
end Testbench
